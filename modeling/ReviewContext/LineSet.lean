/-!
# Sets of line numbers

A set of line numbers is kept as a strictly ascending list, so two sets with the same members are
equal and the list itself is the order in which the members are shown.
-/

namespace ReviewContext

/-- Puts a number into an ascending list unless it is there. -/
def insertAscending (n : Int) : List Int → List Int
  | [] => [n]
  | m :: rest =>
    if n < m then n :: m :: rest
    else if n = m then m :: rest
    else m :: insertAscending n rest

theorem mem_insertAscending {n k : Int} {numbers : List Int} :
    k ∈ insertAscending n numbers ↔ k = n ∨ k ∈ numbers := by
  induction numbers with
  | nil => simp [insertAscending]
  | cons m rest ih =>
    unfold insertAscending
    split
    · simp
    · split
      · rename_i h
        subst h
        simp
      · simp only [List.mem_cons, ih]
        constructor
        · rintro (h | h | h) <;> simp [h]
        · rintro (h | h | h) <;> simp [h]

theorem pairwise_insertAscending
    {n : Int}
    {numbers : List Int}
    (h : numbers.Pairwise (· < ·)) :
    (insertAscending n numbers).Pairwise (· < ·) := by
  induction numbers with
  | nil => simp [insertAscending]
  | cons m rest ih =>
    obtain ⟨hm, hrest⟩ := List.pairwise_cons.1 h
    unfold insertAscending
    split
    · rename_i hlt
      refine List.pairwise_cons.2 ⟨fun k hk => ?_, h⟩
      rcases List.mem_cons.1 hk with rfl | hk
      · exact hlt
      · exact Int.lt_trans hlt (hm k hk)
    · split
      · exact h
      · refine List.pairwise_cons.2 ⟨fun k hk => ?_, ih hrest⟩
        rcases mem_insertAscending.1 hk with rfl | hk
        · omega
        · exact hm k hk

structure LineSet where
  toList : List Int
  ascending : toList.Pairwise (· < ·)
  deriving DecidableEq

namespace LineSet

def empty : LineSet :=
  ⟨[], List.Pairwise.nil⟩

def insert (n : Int) (lines : LineSet) : LineSet :=
  ⟨insertAscending n lines.toList, pairwise_insertAscending lines.ascending⟩

def ofList (numbers : List Int) : LineSet :=
  numbers.foldr insert empty

def contains (lines : LineSet) (n : Int) : Bool :=
  lines.toList.contains n

def isEmpty (lines : LineSet) : Bool :=
  lines.toList.isEmpty

def size (lines : LineSet) : Nat :=
  lines.toList.length

def filter (keep : Int → Bool) (lines : LineSet) : LineSet :=
  ⟨lines.toList.filter keep, lines.ascending.filter keep⟩

/-- The members from a first to a last number, both included. -/
def between (lines : LineSet) (first last : Int) : LineSet :=
  lines.filter fun n => first ≤ n && n ≤ last

/-- Whether all members occur in a list. -/
def isCoveredBy (lines : LineSet) (numbers : List Int) : Bool :=
  lines.toList.all numbers.contains

instance : Membership Int LineSet where
  mem lines n := n ∈ lines.toList

theorem mem_iff {n : Int} {lines : LineSet} : n ∈ lines ↔ n ∈ lines.toList :=
  Iff.rfl

theorem contains_iff {n : Int} {lines : LineSet} : lines.contains n = true ↔ n ∈ lines := by
  simp [contains, mem_iff]

theorem mem_insert {n k : Int} {lines : LineSet} :
    k ∈ lines.insert n ↔ k = n ∨ k ∈ lines :=
  mem_insertAscending

theorem mem_ofList {n : Int} {numbers : List Int} : n ∈ ofList numbers ↔ n ∈ numbers := by
  induction numbers with
  | nil => simp [ofList, empty, mem_iff]
  | cons m rest ih =>
    have hcons : ofList (m :: rest) = (ofList rest).insert m := rfl
    rw [hcons, mem_insert, ih, List.mem_cons]

theorem mem_filter {n : Int} {keep : Int → Bool} {lines : LineSet} :
    n ∈ lines.filter keep ↔ n ∈ lines ∧ keep n = true := by
  simp [filter, mem_iff]

theorem mem_between {n first last : Int} {lines : LineSet} :
    n ∈ lines.between first last ↔ n ∈ lines ∧ first ≤ n ∧ n ≤ last := by
  simp [between, mem_filter]

end LineSet

end ReviewContext
