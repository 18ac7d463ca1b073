import ContentSync.Schema.Basic

/-!
# Counting the types on a path

Types may refer to each other in circles, so a path from type to type need not end by itself.  A
ledger counts how often each type occurs on a path, its beginning included; a path that would meet a
type more than `maxTypeDepth` times is cut off.

Ledgers are values: what is counted on one path does not count on another.

`Ledger.headroom` is the number of visits that are still possible in a schema; every visit to one of
its types lowers it (`headroom_visit`), which is why all paths end.
-/

namespace ContentSync

/-- How often a type may occur on a path. -/
def maxTypeDepth : Nat := 5

/-- How often each type occurs on a path. -/
structure Ledger where
  visits : Entries Nat
  deriving DecidableEq

namespace Ledger

/-- The ledger of the path that holds nothing. -/
def empty : Ledger := ⟨[]⟩

/-- The ledger of a path that begins at a type. -/
def root (type : String) : Ledger := ⟨[(type, 1)]⟩

/-- How often a type occurs. -/
def count (l : Ledger) (type : String) : Nat := (Entries.get? l.visits type).getD 0

/-- **The ledger of the path that goes on to a type**; absent if that is once too often. -/
def visit (l : Ledger) (type : String) : Option Ledger :=
  if maxTypeDepth < l.count type + 1 then none
  else some ⟨Entries.insert l.visits type (l.count type + 1)⟩

/-- A visit adds one occurrence of its type and none of any other. -/
theorem count_visit {l l' : Ledger} {type : String} (h : l.visit type = some l')
    (other : String) : l'.count other = l.count other + if type = other then 1 else 0 := by
  unfold visit at h
  split at h
  · exact absurd h (by simp)
  · cases h
    by_cases ho : type = other
    · subst ho
      simp [count, Entries.get?_insert]
    · simp [count, Entries.get?_insert, ho]

/-- A visit is possible exactly when the type occurs fewer than `maxTypeDepth` times. -/
theorem visit_isSome_iff {l : Ledger} {type : String} :
    (l.visit type).isSome ↔ l.count type < maxTypeDepth := by
  unfold visit
  split <;> simp <;> omega

/-- The number of visits that are still possible among some types. -/
def headroom (l : Ledger) : List String → Nat
  | [] => 0
  | t :: rest => (maxTypeDepth - l.count t) + headroom l rest

theorem headroom_visit_le {l l' : Ledger} {type : String} (h : l.visit type = some l')
    (types : List String) : l'.headroom types ≤ l.headroom types := by
  induction types with
  | nil => exact Nat.le_refl _
  | cons t rest ih =>
    simp only [headroom]
    have := count_visit h t
    omega

/-- **Every visit lowers the headroom.** -/
theorem headroom_visit {l l' : Ledger} {type : String} (h : l.visit type = some l')
    {types : List String} (hm : type ∈ types) : l'.headroom types < l.headroom types := by
  induction types with
  | nil => exact absurd hm (by simp)
  | cons t rest ih =>
    have hle := headroom_visit_le h rest
    simp only [headroom]
    have hc := count_visit h t
    rcases List.mem_cons.1 hm with rfl | hr
    · have hlt : l.count type < maxTypeDepth := visit_isSome_iff.1 (by simp [h])
      simp only [if_true] at hc
      omega
    · have := ih hr
      omega

end Ledger

end ContentSync
