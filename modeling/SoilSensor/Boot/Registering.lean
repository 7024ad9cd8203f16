import SoilSensor.Boot.Model.Main
import SoilSensor.Matter.Frame
/-!
# Registering in any order

`main` registers the overrides once, in one order. Nothing rests on that:
no two of them are in each other's way, the one guard skips only what would
be refused, and the one attribute that is written is read through the
override that was registered with it. So what clients read is decided by
which of the registration functions have been called
(`registered_in_any_order`).
-/

namespace SoilSensor

open Boot AttributeAccessInterface

variable {setUp : SetUp} {store : AttributeStore} {env : OverrideEnv}
variable {registry : List AttributeAccessInterface}
variable {base base' : ConcreteAttributePath → ReadAnswer} {s s' : AttributeServer}
variable {i j : AttributeAccessInterface} {path : ConcreteAttributePath}
variable {calls calls' : List (BootCall × Bool)}

/-- The calls that register an override. -/
def registering : List BootCall :=
  [.registerTimeSyncDelegate, .registerGenDiagAttrAccess, .ep0Register,
    .registerIdentifyRevisionOverride, .registerGkmRevisionOverride]

/-- The other calls of a list. -/
def others (calls : List (BootCall × Bool)) : List (BootCall × Bool) :=
  calls.filter fun m => m.1 ∉ registering

/-- **The data model as the other calls have made it.** -/
def dataModel (setUp : SetUp) (base : ConcreteAttributePath → ReadAnswer)
    (calls : List (BootCall × Bool)) (path : ConcreteAttributePath) : ReadAnswer :=
  (others calls).foldl (fun answer m => setUp m path answer) (base path)

theorem dataModel_snoc {m : BootCall × Bool} : dataModel setUp base (calls ++ [m]) path =
    if m.1 ∈ registering then dataModel setUp base calls path
    else setUp m path (dataModel setUp base calls path) := by
  by_cases h : m.1 ∈ registering
  · simp [dataModel, others, List.filter_append, h]
  · simp [dataModel, others, List.filter_append, h]

/-! ## The overrides among themselves -/

/-- An override is in its own way. -/
theorem overlaps_self (hi : i ∈ overrides env) : matching.overlaps i i := by
  obtain ⟨endpoint, hend, -⟩ := mem_overridden hi
  simp [matching, meets, covers, hend]

/-- **No two overrides are in each other's way.** -/
theorem apart_overrides : matching.Apart (overrides env) := by
  have hnodup : ((overrides env).map fun i => (i.mEndpointId, i.mClusterId)).Nodup := by
    rw [map_overrides]
    cases hsoil : env.soilEndpoint <;> simp only [overridden, hsoil] <;> decide
  intro i hi j hj ho
  obtain ⟨e, hei, -⟩ := mem_overridden hi
  obtain ⟨e', hej, -⟩ := mem_overridden hj
  simp only [matching, meets, covers, hei, hej, Bool.and_eq_true, decide_eq_true_eq] at ho
  refine List.inj_on_of_nodup_map hnodup hi hj ?_
  rw [hei, hej, ho.1, ho.2]

/-! ## What a call tries -/

/-- The interfaces a call asks the registry to take. -/
def interfaces (env : OverrideEnv) : BootCall → List AttributeAccessInterface
  | .registerTimeSyncDelegate => [timeSyncDelegate env.timeSync]
  | .registerGenDiagAttrAccess => [genDiagAttrAccess]
  | .ep0Register =>
    [attrListSanitizer env kEp0 Clusters.basicInformation,
      attrListSanitizer env kEp0 Clusters.descriptor] ++
    (if env.soilEndpoint then [attrListSanitizer env kSoilEndpoint Clusters.descriptor] else []) ++
    [attrListSanitizer env kEp0 Clusters.icdManagement]
  | .registerIdentifyRevisionOverride => [identifyRevisionOverride 1]
  | .registerGkmRevisionOverride => [gkmClusterRevisionOverride]
  | _ => []

/-- Those that a list of calls has tried. -/
def tried (env : OverrideEnv) (calls : List (BootCall × Bool)) : List AttributeAccessInterface :=
  calls.flatMap fun m => interfaces env m.1

theorem interfaces_subset {c : BootCall} (hi : i ∈ interfaces env c) : i ∈ overrides env := by
  cases c <;> simp only [interfaces, List.not_mem_nil] at hi <;>
    simp only [overrides, List.mem_append, List.mem_cons, List.not_mem_nil, or_false] at hi ⊢ <;>
    tauto

theorem interfaces_eq_nil {c : BootCall} (hc : c ∉ registering) : interfaces env c = [] := by
  cases c <;> first | rfl | exact absurd (by simp [registering]) hc

theorem tried_subset (hi : i ∈ tried env calls) : i ∈ overrides env := by
  obtain ⟨m, -, him⟩ := List.mem_flatMap.1 hi
  exact interfaces_subset him

theorem apart_tried : matching.Apart (tried env calls) :=
  fun i hi j hj => apart_overrides i (tried_subset hi) j (tried_subset hj)

/-- What is tried is decided by which functions are called. -/
theorem mem_tried_congr
    (hsame : ∀ c ∈ registering, c ∈ calls.map Prod.fst → c ∈ calls'.map Prod.fst)
    (hi : i ∈ tried env calls) : i ∈ tried env calls' := by
  obtain ⟨m, hm, him⟩ := List.mem_flatMap.1 hi
  have hreg : m.1 ∈ registering := by
    by_contra hc
    rw [interfaces_eq_nil hc] at him
    cases him
  obtain ⟨m', hm', heq⟩ := List.mem_map.1 (hsame m.1 hreg (List.mem_map_of_mem hm))
  exact List.mem_flatMap.2 ⟨m', hm', heq ▸ him⟩

/-! ## What it leaves -/

variable {is : List AttributeAccessInterface}

/-- What registrations do to the registry. -/
theorem registry_registerAll :
    (registerAll is s).registry = matching.registerEach is s.registry := by
  induction is generalizing s with
  | nil => rfl
  | cons i is ih =>
    have hone : (s.register i).2.registry = (matching.register i s.registry).getD s.registry := by
      unfold AttributeServer.register
      split
      · rename_i h
        rw [h]
        rfl
      · rename_i h
        rw [h]
        rfl
    rw [registerAll, ih, hone]
    rfl

/-- **What calls have made of the overrides**: everything they tried was
registered if nothing stood in its way, the guard tells the truth, and the
data model is as the other calls have made it, but for what is hidden by the
override that was registered with it. -/
structure Stands (setUp : SetUp) (env : OverrideEnv) (registry : List AttributeAccessInterface)
    (base : ConcreteAttributePath → ReadAnswer) (calls : List (BootCall × Bool))
    (s : AttributeServer) : Prop where
  taken : s.registry = matching.registerEach (tried env calls) registry
  elsewhere : ∀ path ≠ gkmRevisionPath, s.base path = dataModel setUp base calls path
  written : s.base gkmRevisionPath ≠ dataModel setUp base calls gkmRevisionPath →
    gkmClusterRevisionOverride ∈ tried env calls ∧ matching.Free gkmClusterRevisionOverride registry
  guard : s.sRegistered → timeSyncDelegate env.timeSync ∈ tried env calls

/-- What was tried is there, or something in its way is. -/
theorem not_free_of_tried (hi : i ∈ tried env calls) :
    ¬ matching.Free i (matching.registerEach (tried env calls) registry) := by
  intro hfree
  by_cases h : matching.Free i registry
  · exact hfree i ((Matching.mem_registerEach apart_tried).2 (.inr ⟨hi, h⟩))
      (overlaps_self (tried_subset hi))
  · refine h fun j hj => hfree j ?_
    exact (Matching.mem_registerEach apart_tried).2 (.inl hj)

theorem tried_snoc {c : BootCall} {a : Bool} :
    tried env (calls ++ [(c, a)]) = tried env calls ++ interfaces env c := by
  simp [tried]

theorem Stands.trying {c : BootCall} {a : Bool} (hc : c ∈ registering)
    (h : Stands setUp env registry base calls s) :
    Stands setUp env registry base (calls ++ [(c, a)]) (registerAll (interfaces env c) s) := by
  obtain ⟨hbase, hflag⟩ := @rest_registerAll s (interfaces env c)
  have hmodel : ∀ path, dataModel setUp base (calls ++ [(c, a)]) path =
      dataModel setUp base calls path := fun path => dataModel_snoc.trans (if_pos hc)
  constructor
  · rw [registry_registerAll, h.taken, tried_snoc, Matching.registerEach, Matching.registerEach,
      Matching.registerEach, List.foldl_append]
  · intro path hne
    rw [hbase, hmodel]
    exact h.elsewhere path hne
  · rw [hbase, hmodel, tried_snoc]
    intro hne
    exact (h.written hne).imp_left (List.mem_append_left _)
  · rw [hflag, tried_snoc]
    intro hs
    exact List.mem_append_left _ (h.guard hs)

/-- A call that registers nothing may change the data model. -/
theorem Stands.other {m : BootCall × Bool} (hm : m.1 ∉ registering)
    (h : Stands setUp env registry base calls s) :
    Stands setUp env registry base (calls ++ [m])
      { s with base := fun path => setUp m path (s.base path) } := by
  have htried : tried env (calls ++ [m]) = tried env calls := by
    rw [tried_snoc, interfaces_eq_nil hm, List.append_nil]
  have hmodel : ∀ path, dataModel setUp base (calls ++ [m]) path =
      setUp m path (dataModel setUp base calls path) := fun path =>
    dataModel_snoc.trans (if_neg hm)
  constructor
  · rw [htried]
    exact h.taken
  · intro path hne
    rw [hmodel, ← h.elsewhere path hne]
  · rw [hmodel, htried]
    exact fun hne => h.written fun heq => hne (congrArg (setUp m gkmRevisionPath) heq)
  · rw [htried]
    exact h.guard

theorem mem_tried_snoc {c : BootCall} {a : Bool} (hi : i ∈ interfaces env c) :
    i ∈ tried env (calls ++ [(c, a)]) := by
  rw [tried_snoc]
  exact List.mem_append_right _ hi

/-- The guard skips what the registry would refuse. -/
theorem Stands.delegate {a : Bool} (h : Stands setUp env registry base calls s) :
    Stands setUp env registry base (calls ++ [(.registerTimeSyncDelegate, a)])
      (registerTimeSyncDelegate env s).2 := by
  have hall := h.trying (c := .registerTimeSyncDelegate) (a := a) (by decide)
  rw [registerTimeSyncDelegate]
  split_ifs with hs
  · have hrefused : (registerAll (interfaces env .registerTimeSyncDelegate) s).registry =
        s.registry := by
      rw [registry_registerAll, h.taken]
      exact Matching.getD_register_of_not_free (not_free_of_tried (h.guard hs))
    obtain ⟨hbase, hflag⟩ := @rest_registerAll s (interfaces env .registerTimeSyncDelegate)
    exact ⟨hrefused ▸ hall.taken, hbase ▸ hall.elsewhere, hbase ▸ hall.written,
      hflag ▸ hall.guard⟩
  · exact ⟨hall.taken, hall.elsewhere, hall.written,
      fun _ => mem_tried_snoc (List.mem_singleton_self _)⟩

/-- The attribute is written when the override was registered. -/
theorem Stands.gkm {a : Bool} (h : Stands setUp env registry base calls s) :
    Stands setUp env registry base (calls ++ [(.registerGkmRevisionOverride, a)])
      (registerGkmRevisionOverride store s) := by
  have hall := h.trying (c := .registerGkmRevisionOverride) (a := a) (by decide)
  rw [registerGkmRevisionOverride]
  split
  · rename_i s' hreg
    obtain rfl : s' = registerAll (interfaces env .registerGkmRevisionOverride) s :=
      (congrArg Prod.snd hreg).symm
    exact hall
  · rename_i s' hreg
    obtain rfl : s' = registerAll (interfaces env .registerGkmRevisionOverride) s :=
      (congrArg Prod.snd hreg).symm
    have hfree : matching.Free gkmClusterRevisionOverride registry := by
      intro j hj ho
      have hrefused : matching.register gkmClusterRevisionOverride s.registry = none := by
        refine Matching.register_eq_none_iff.2 ⟨j, ?_, ho⟩
        rw [h.taken]
        exact (Matching.mem_registerEach apart_tried).2 (.inl hj)
      rw [AttributeServer.register, hrefused] at hreg
      cases hreg
    refine ⟨hall.taken, fun path hne => ?_,
      fun _ => ⟨mem_tried_snoc (List.mem_singleton_self _), hfree⟩, hall.guard⟩
    exact (store.write_of_ne hne).trans (hall.elsewhere path hne)

/-- **One call more.** -/
theorem Stands.step {m : BootCall × Bool} (h : Stands setUp env registry base calls s) :
    Stands setUp env registry base (calls ++ [m]) (attributeEffect setUp store env s m) := by
  by_cases hm : m.1 ∈ registering
  · obtain ⟨c, succeeded⟩ := m
    have hall := h.trying (a := succeeded) hm
    cases c with
    | registerTimeSyncDelegate => exact h.delegate
    | registerGenDiagAttrAccess => exact hall
    | ep0Register =>
      have heq : ep0Register env s = registerAll (interfaces env .ep0Register) s := by
        cases hsoil : env.soilEndpoint <;>
        simp [ep0Register, interfaces, hsoil, registerAll]
      rw [attributeEffect, heq]
      exact hall
    | registerIdentifyRevisionOverride => exact hall
    | registerGkmRevisionOverride => exact h.gkm
    | _ => exact absurd hm (by simp [registering])
  · have heq : attributeEffect setUp store env s m =
        { s with base := fun path => setUp m path (s.base path) } := by
      obtain ⟨c, succeeded⟩ := m
      cases c <;> first | rfl | exact absurd (by simp [registering]) hm
    rw [heq]
    exact h.other hm

theorem stands (calls : List (BootCall × Bool)) : Stands setUp env registry base calls
    (calls.foldl (attributeEffect setUp store env) (.boot registry base)) := by
  induction calls using List.reverseRecOn with
  | nil => exact ⟨rfl, fun _ _ => rfl, fun h => absurd rfl h, fun h => by cases h⟩
  | append_singleton calls m ih =>
    rw [List.foldl_append]
    exact ih.step

/-- **Who is asked, and the data model as it was made, make the answer.** -/
theorem Stands.readAttribute_get (h : Stands setUp env registry base calls s) :
    s.readAttribute path =
      match s.get path with
      | some i =>
        match i.read path with
        | .error .noError => dataModel setUp base calls path
        | answer => answer
      | none => dataModel setUp base calls path := by
  by_cases hbase : s.base path = dataModel setUp base calls path
  · rw [← hbase]
    rfl
  · have hpath : path = gkmRevisionPath := by
      by_contra hne
      exact hbase (h.elsewhere path hne)
    subst hpath
    obtain ⟨htried, hfree⟩ := h.written hbase
    have hget : s.get gkmRevisionPath = some gkmClusterRevisionOverride := by
      rw [AttributeServer.get, h.taken]
      exact Matching.get_registerEach_of_free apart_tried htried hfree rfl
    have hne : gkmClusterRevisionOverride.read gkmRevisionPath ≠ .error .noError := by decide
    rw [AttributeServer.readAttribute_of_get hget hne, hget]
    rfl

/-- **The same tried over the same data model is read alike.** -/
theorem Stands.readAttribute_congr (h : Stands setUp env registry base calls s)
    (h' : Stands setUp env registry base' calls' s')
    (hsame : ∀ c ∈ registering, c ∈ calls.map Prod.fst ↔ c ∈ calls'.map Prod.fst)
    (hmodel : dataModel setUp base calls path = dataModel setUp base' calls' path) :
    s.readAttribute path = s'.readAttribute path := by
  have htried : ∀ i, i ∈ tried env calls ↔ i ∈ tried env calls' := fun i =>
    ⟨mem_tried_congr fun c hc => (hsame c hc).1, mem_tried_congr fun c hc => (hsame c hc).2⟩
  have hget : s.get path = s'.get path := by
    rw [AttributeServer.get, AttributeServer.get, h.taken, h'.taken]
    exact Matching.get_registerEach_congr apart_tried htried
  rw [h.readAttribute_get, h'.readAttribute_get, hget, hmodel]

/-- **What clients read does not depend on how the overrides were
registered.** Whatever the registry held before, take two runs of the calls
of the boot with the same calls of other functions, in the same order and
whatever they make of the data model, and with the registration functions
in any order, each any number of times and anywhere among the others. They
answer every read alike once they have called the same registration
functions, whatever the attribute store makes of what is written to it. -/
theorem registered_in_any_order (setUp : SetUp) (store store' : AttributeStore)
    (env : OverrideEnv) (registry : List AttributeAccessInterface)
    (base : ConcreteAttributePath → ReadAnswer) (calls calls' : List (BootCall × Bool))
    (hothers : others calls = others calls')
    (hsame : ∀ c ∈ registering, c ∈ calls.map Prod.fst ↔ c ∈ calls'.map Prod.fst)
    (path : ConcreteAttributePath) :
    (calls.foldl (attributeEffect setUp store env) (.boot registry base)).readAttribute path =
      (calls'.foldl (attributeEffect setUp store' env) (.boot registry base)).readAttribute
        path := by
  have h : Stands setUp env registry base calls
      (calls.foldl (attributeEffect setUp store env) (.boot registry base)) := stands calls
  have h' : Stands setUp env registry base calls'
      (calls'.foldl (attributeEffect setUp store' env) (.boot registry base)) := stands calls'
  refine h.readAttribute_congr h' hsame ?_
  rw [dataModel, dataModel, hothers]

/-- What `ConfigureBasicInformation` does to `ManufacturingDate`. -/
def manufacturingDateSetUp : SetUp := fun m path answer =>
  if m.1 = .configureBasicInformation ∧ path = ⟨kEp0, Clusters.basicInformation, 0x000B⟩ then
    .value (.charString "20240115")
  else answer

/-- Registered backwards, and then again in order, after the attribute is
enabled, with the store refusing what is written. -/
theorem registered_in_any_order_twice :
    (((BootCall.configureBasicInformation :: registering.reverse ++ registering).map
        fun c => (c, false)).foldl (attributeEffect manufacturingDateSetUp .refusing .fresh)
        (.boot [] fun _ => .error .noError)).readAttribute
          ⟨kEp0, Clusters.basicInformation, 0x000B⟩ =
      (((registering ++ [BootCall.configureBasicInformation]).map fun c => (c, false)).foldl
        (attributeEffect manufacturingDateSetUp .taking .fresh)
        (.boot [] fun _ => .error .noError)).readAttribute
          ⟨kEp0, Clusters.basicInformation, 0x000B⟩ :=
  registered_in_any_order _ _ _ _ _ _ _ _ (by decide) (by decide) _

end SoilSensor
