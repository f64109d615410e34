import LocatorPath.Resolve.Select

/-! Places in a list, counted from one. Those of a range are in a row, so a range cuts one part out of a list, and an
index into that part is an index into the list. -/
namespace LocatorPath

variable {α : Type}

namespace IndexSpec

def isRange : IndexSpec → Bool
  | exact _ => false
  | _ => true

def Keeps : IndexSpec → Nat → Prop
  | exact _, _ => False
  | between low high, n => low.toNat ≤ n ∧ n ≤ high.toNat
  | above bound, n => bound.toNat < n
  | below bound, n => n < bound.toNat

end IndexSpec

def Position.place (size : Nat) : Position → Nat
  | first => 1
  | last => size
  | nth n => n.toNat

def memberAt? (as : List α) : Nat → Option α
  | 0 => none
  | n + 1 => as[n]?

structure Window (as : List α) (keeps : Nat → Prop) (start : Nat) (kept : List α) : Prop where
  part : ∃ before after, as = before ++ kept ++ after ∧ before.length = start
  places : ∀ n, 0 < n ∧ n ≤ as.length ∧ keeps n ↔ start < n ∧ n ≤ start + kept.length

/-- What an index picks from a part of a list: `start` members come before the part, and `size` are in it. -/
inductive Picks (as : List α) (start size : Nat) : IndexSpec → Except ResolveError (Scope α) → Prop
  | range {r first kept} (ranges : r.isRange = true)
      (window : Window as (fun n => start < n ∧ n ≤ start + size ∧ r.Keeps (n - start)) first kept) :
      Picks as start size r (.ok (.many kept))
  | member {p a} (inside : 0 < p.place size ∧ p.place size ≤ size)
      (found : memberAt? as (start + p.place size) = some a) : Picks as start size (.exact p) (.ok (.one a))
  | outside {p} (missing : ¬ (0 < p.place size ∧ p.place size ≤ size)) :
      Picks as start size (.exact p) (.error (.indexOutOfRange (.exact p) size))

/-! ## Windows -/

section Windows

variable {as kept : List α} {keeps more : Nat → Prop} {start first : Nat}

theorem Window.size (window : Window as keeps start kept) : start + kept.length ≤ as.length := by
  obtain ⟨before, after, rfl, rfl⟩ := window.part
  simp

theorem Window.unique {others : List α} (one : Window as keeps start kept) (two : Window as keeps first others) :
    kept = others := by
  have same (n : Nat) := (one.places n).symm.trans (two.places n)
  have less := (same (start + 1)).mp
  have more := (same (first + 1)).mpr
  have last := (same (start + kept.length)).mp
  have final := (same (first + others.length)).mpr
  by_cases none : kept.length = 0 ∧ others.length = 0
  · rw [List.eq_nil_of_length_eq_zero none.1, List.eq_nil_of_length_eq_zero none.2]
  · have starts : start = first := by omega
    have sizes : kept.length = others.length := by omega
    obtain ⟨before, after, rfl, front⟩ := one.part
    obtain ⟨before', after', whole, front'⟩ := two.part
    rw [List.append_assoc, List.append_assoc] at whole
    have rest := (List.append_inj whole (by omega)).2
    exact (List.append_inj rest sizes).1

theorem Window.within {sub : List α} (outer : Window as keeps start kept) (inner : Window kept more first sub) :
    Window as (fun n => start < n ∧ n ≤ start + kept.length ∧ more (n - start)) (start + first) sub := by
  have inside := inner.size
  have room := outer.size
  constructor
  · obtain ⟨before, after, rfl, rfl⟩ := outer.part
    obtain ⟨front, back, rfl, rfl⟩ := inner.part
    exact ⟨before ++ front, back ++ after, by simp, by simp⟩
  · intro n
    have here := inner.places (n - start)
    constructor
    · rintro ⟨_, _, after, upTo, holds⟩
      have := here.mp ⟨by omega, by omega, holds⟩
      omega
    · intro between
      have := here.mpr (by omega)
      exact ⟨by omega, by omega, by omega, by omega, this.2.2⟩

theorem wholeWindow (as : List α) : Window as (fun _ => True) 0 as :=
  ⟨⟨[], [], by simp, rfl⟩, fun n => by simp⟩

end Windows

/-! ## Ranges -/

section Ranges

variable {keeps : Nat → Bool}

theorem keepPlacesAppend (keeps : Nat → Bool) (place : Nat) (xs ys : List α) :
    keepPlaces keeps place (xs ++ ys) = keepPlaces keeps place xs ++ keepPlaces keeps (place + xs.length) ys := by
  induction xs generalizing place with
  | nil => rfl
  | cons a rest ih =>
    rw [List.cons_append, keepPlaces, keepPlaces, ih, List.length_cons, Nat.add_right_comm, Nat.add_assoc]
    split <;> rfl

theorem keepPlacesAll {place : Nat} {as : List α} (all : ∀ n, place ≤ n → n < place + as.length → keeps n = true) :
    keepPlaces keeps place as = as := by
  induction as generalizing place with
  | nil => rfl
  | cons a rest ih =>
    rw [List.length_cons] at all
    rw [keepPlaces, if_pos (all place (by omega) (by omega)), ih fun n low high => all n (by omega) (by omega)]

theorem keepPlacesNone {place : Nat} {as : List α} (none : ∀ n, place ≤ n → n < place + as.length → keeps n = false) :
    keepPlaces keeps place as = [] := by
  induction as generalizing place with
  | nil => rfl
  | cons a rest ih =>
    rw [List.length_cons] at none
    rw [keepPlaces, none place (by omega) (by omega)]
    exact ih fun n low high => none n (by omega) (by omega)

theorem cutOut {as : List α} {low high : Nat} (ordered : low ≤ high) (inside : high ≤ as.length) :
    ∃ before kept after, as = before ++ kept ++ after ∧ before.length = low ∧ low + kept.length = high := by
  refine ⟨as.take low, (as.take high).drop low, as.drop high, ?_, ?_, ?_⟩
  · have same : as.take low = (as.take high).take low := by rw [List.take_take, Nat.min_eq_left ordered]
    rw [same, List.take_append_drop, List.take_append_drop]
  · rw [List.length_take]
    omega
  · rw [List.length_drop, List.length_take]
    omega

theorem keptWindow {as : List α} {holds : Nat → Prop} {low high : Nat} (same : ∀ n, keeps n = true ↔ holds n)
    (ordered : low ≤ high) (inside : high ≤ as.length)
    (row : ∀ n, 0 < n ∧ n ≤ as.length ∧ holds n ↔ low < n ∧ n ≤ high) :
    Window as holds low (keepPlaces keeps 1 as) := by
  obtain ⟨before, kept, after, rfl, rfl, rfl⟩ := cutOut ordered inside
  simp only [List.length_append] at row
  have outside (n : Nat) (positive : 0 < n) (within : n ≤ before.length + kept.length + after.length)
      (out : n ≤ before.length ∨ before.length + kept.length < n) : keeps n = false := by
    rw [← Bool.not_eq_true, same]
    intro holds
    have := (row n).mp ⟨positive, within, holds⟩
    omega
  have only : keepPlaces keeps 1 (before ++ kept ++ after) = kept := by
    rw [keepPlacesAppend, keepPlacesAppend, List.length_append,
      keepPlacesNone fun n low high => outside n (by omega) (by omega) (.inl (by omega)),
      keepPlacesAll fun n low high => (same n).mpr ((row n).mpr (by omega)).2.2,
      keepPlacesNone fun n low high => outside n (by omega) (by omega) (.inr (by omega)),
      List.nil_append, List.append_nil]
  rw [only]
  exact ⟨⟨before, after, rfl, rfl⟩, by simpa only [List.length_append] using row⟩

theorem rangeRow {r : IndexSpec} (ranges : r.isRange = true) (size : Nat) :
    ∃ low high, low ≤ high ∧ high ≤ size ∧ ∀ n, 0 < n ∧ n ≤ size ∧ r.Keeps n ↔ low < n ∧ n ≤ high := by
  cases r with
  | exact p => cases ranges
  | between low high =>
    simp only [IndexSpec.Keeps]
    exact ⟨min (low.toNat - 1) size, max (min (low.toNat - 1) size) (min high.toNat size), by omega, by omega,
      fun n => by omega⟩
  | above bound =>
    simp only [IndexSpec.Keeps]
    exact ⟨min bound.toNat size, size, by omega, by omega, fun n => by omega⟩
  | below bound =>
    simp only [IndexSpec.Keeps]
    exact ⟨0, min (bound.toNat - 1) size, by omega, by omega, fun n => by omega⟩

theorem rangeKeeps {r : IndexSpec} (ranges : r.isRange = true) : ∃ keeps : Nat → Bool,
    (∀ n, keeps n = true ↔ r.Keeps n) ∧ ∀ as : List α, selectIndex as r = .ok (.many (keepPlaces keeps 1 as)) := by
  cases r with
  | exact p => cases ranges
  | between low high => exact ⟨_, fun n => by simp [IndexSpec.Keeps], fun as => rfl⟩
  | above bound => exact ⟨_, fun n => by simp [IndexSpec.Keeps], fun as => rfl⟩
  | below bound => exact ⟨_, fun n => by simp [IndexSpec.Keeps], fun as => rfl⟩

theorem rangeWindow {r : IndexSpec} (ranges : r.isRange = true) (as : List α) :
    ∃ start kept, selectIndex as r = .ok (.many kept) ∧ Window as r.Keeps start kept := by
  obtain ⟨keeps, same, selected⟩ := rangeKeeps (α := α) ranges
  obtain ⟨low, high, ordered, inside, row⟩ := rangeRow ranges as.length
  exact ⟨low, _, selected as, keptWindow same ordered inside row⟩

end Ranges

/-! ## Exact places -/

section Members

theorem memberPlace (as : List α) (p : Position) : p.member? as = memberAt? as (p.place as.length) := by
  cases p with
  | first => exact List.head?_eq_getElem?
  | last =>
    rw [Position.member?, Position.place, List.getLast?_eq_getElem?]
    cases as <;> rfl
  | nth n =>
    rw [Position.member?, Position.place]
    by_cases zero : n = 0
    · rw [if_pos zero, zero]
      rfl
    · have positive : n.toNat ≠ 0 := fun none => zero (UInt64.toNat_inj.mp none)
      obtain ⟨k, number⟩ := Nat.exists_eq_succ_of_ne_zero positive
      rw [if_neg zero, number]
      rfl

theorem memberAtIff {as : List α} {n : Nat} : (∃ a, memberAt? as n = some a) ↔ 0 < n ∧ n ≤ as.length := by
  cases n with
  | zero => simp [memberAt?]
  | succ k =>
    constructor
    · rintro ⟨a, found⟩
      obtain ⟨inside, _⟩ := List.getElem?_eq_some_iff.mp found
      exact ⟨Nat.succ_pos k, inside⟩
    · rintro ⟨_, inside⟩
      exact ⟨_, List.getElem?_eq_getElem inside⟩

theorem memberWithin {as kept : List α} {keeps : Nat → Prop} {start : Nat} (window : Window as keeps start kept)
    {n : Nat} (inside : 0 < n ∧ n ≤ kept.length) : memberAt? as (start + n) = memberAt? kept n := by
  obtain ⟨before, after, rfl, rfl⟩ := window.part
  obtain ⟨k, rfl⟩ : ∃ k, n = k + 1 := ⟨n - 1, by omega⟩
  have front : before.length + k < (before ++ kept).length := by
    rw [List.length_append]
    omega
  change (before ++ kept ++ after)[before.length + k]? = kept[k]?
  rw [List.getElem?_append_left front, List.getElem?_append_right (by omega), Nat.add_sub_cancel_left]

end Members

theorem windowPicks {as kept : List α} {keeps : Nat → Prop} {start : Nat} (window : Window as keeps start kept)
    (spec : IndexSpec) : Picks as start kept.length spec (selectIndex kept spec) := by
  cases spec with
  | exact p =>
    rw [selectIndex, memberPlace]
    by_cases inside : 0 < p.place kept.length ∧ p.place kept.length ≤ kept.length
    · obtain ⟨a, found⟩ := memberAtIff.mpr inside
      rw [found]
      exact .member inside ((memberWithin window inside).trans found)
    · cases missing : memberAt? kept (p.place kept.length) with
      | some a => exact absurd (memberAtIff.mp ⟨a, missing⟩) inside
      | none => exact .outside inside
  | between low high =>
    obtain ⟨first, sub, selected, inner⟩ := rangeWindow (r := .between low high) rfl kept
    exact selected ▸ .range rfl (window.within inner)
  | above bound =>
    obtain ⟨first, sub, selected, inner⟩ := rangeWindow (r := .above bound) rfl kept
    exact selected ▸ .range rfl (window.within inner)
  | below bound =>
    obtain ⟨first, sub, selected, inner⟩ := rangeWindow (r := .below bound) rfl kept
    exact selected ▸ .range rfl (window.within inner)

theorem Picks.unique {as : List α} {start size : Nat} {spec : IndexSpec} {out other : Except ResolveError (Scope α)}
    (one : Picks as start size spec out) (two : Picks as start size spec other) : out = other := by
  cases one with
  | range ranges window =>
    cases two with
    | range _ again => rw [window.unique again]
    | member => cases ranges
    | outside => cases ranges
  | member inside found =>
    cases two with
    | range ranges => cases ranges
    | member _ again => rw [Option.some.inj (found.symm.trans again)]
    | outside missing => exact absurd inside missing
  | outside missing =>
    cases two with
    | range ranges => cases ranges
    | member inside => exact absurd inside missing
    | outside => rfl

/- What is before a place, at it and after it make up the list. The induction is on the list, from whatever place it
starts. -/
theorem keptAround (n place : Nat) (as : List α) :
    keepPlaces (fun m => m < n) place as ++ (if place ≤ n then as[n - place]? else none).toList ++
      keepPlaces (fun m => n < m) place as = as := by
  induction as generalizing place with
  | nil => simp [keepPlaces]
  | cons a rest ih =>
    have later := ih (place + 1)
    rw [keepPlaces, keepPlaces]
    rcases Nat.lt_trichotomy place n with less | same | more
    · obtain ⟨k, number⟩ : ∃ k, n - place = k + 1 := ⟨n - place - 1, by omega⟩
      have next : n - (place + 1) = k := by omega
      rw [if_pos (by omega : place + 1 ≤ n), next] at later
      simp [less, Nat.le_of_lt less, Nat.not_lt_of_lt less, number, later]
    all_goals
      have none : keepPlaces (fun m => m < n) (place + 1) rest = [] :=
        keepPlacesNone fun m low high => by simp; omega
      rw [if_neg (by omega : ¬ place + 1 ≤ n), none] at later
    · subst same
      simpa [none] using later
    · simpa [none, more, Nat.not_lt_of_lt more, Nat.not_le_of_lt more] using later

/-! ## Places as words -/

def keepWords (keeps : UInt64 → Bool) : (place : UInt64) → List α → List α
  | _, [] => []
  | n, a :: rest => if keeps n then a :: keepWords keeps (n + 1) rest else keepWords keeps (n + 1) rest

def Position.index? (size : UInt64) : Position → Option UInt64
  | first => some 0
  | last => if size = 0 then none else some (size - 1)
  | nth n => if n = 0 then none else some (n - 1)

/-- The selection by an index with all of its arithmetic on words. -/
def selectInWords (as : List α) (spec : IndexSpec) : Except ResolveError (Scope α) :=
  match spec with
  | .exact p =>
    match (p.index? (.ofNat as.length)).bind fun i => as[i.toNat]? with
    | some a => .ok (.one a)
    | none => .error (.indexOutOfRange spec as.length)
  | .between low high => .ok (.many (keepWords (fun n => low ≤ n && n ≤ high) 1 as))
  | .above bound => .ok (.many (keepWords (fun n => bound < n) 1 as))
  | .below bound => .ok (.many (keepWords (fun n => n < bound) 1 as))

section Words

theorem keepWordsPlaces {keeps : UInt64 → Bool} {holds : Nat → Bool} (same : ∀ n, keeps n = holds n.toNat)
    {n : UInt64} {as : List α} (fits : n.toNat + as.length ≤ UInt64.size) :
    keepWords keeps n as = keepPlaces holds n.toNat as := by
  induction as generalizing n with
  | nil => rfl
  | cons a rest ih =>
    rw [List.length_cons] at fits
    have later : keepWords keeps (n + 1) rest = keepPlaces holds (n.toNat + 1) rest := by
      by_cases room : n.toNat + 1 < UInt64.size
      · have next : (n + 1).toNat = n.toNat + 1 := by
          rw [UInt64.toNat_add]
          exact Nat.mod_eq_of_lt room
        rw [ih (by omega), next]
      · -- the counter goes on to zero only behind the last member
        obtain rfl : rest = [] := List.eq_nil_of_length_eq_zero (by omega)
        rfl
    rw [keepWords, keepPlaces, same, later]

theorem indexMember {as : List α} (fits : as.length < UInt64.size) (p : Position) :
    (p.index? (.ofNat as.length)).bind (fun i => as[i.toNat]?) = p.member? as := by
  have less (n : UInt64) (positive : n ≠ 0) : (n - 1).toNat = n.toNat - 1 := by
    have one : 1 ≤ n.toNat := Nat.one_le_iff_ne_zero.mpr fun none => positive (UInt64.toNat_inj.mp none)
    exact UInt64.toNat_sub_of_le n 1 (UInt64.le_iff_toNat_le.mpr one)
  have size : (UInt64.ofNat as.length).toNat = as.length := UInt64.toNat_ofNat_of_lt fits
  cases p with
  | first => exact List.head?_eq_getElem?.symm
  | last =>
    rw [Position.index?, Position.member?]
    split
    · next zero =>
      rw [zero] at size
      rw [List.eq_nil_of_length_eq_zero size.symm]
      rfl
    · next positive =>
      rw [Option.bind_some, less _ positive, size, List.getLast?_eq_getElem?]
  | nth n =>
    rw [Position.index?, Position.member?]
    split
    · rfl
    · next positive => rw [Option.bind_some, less n positive]

theorem keptInWords {keeps : UInt64 → Bool} {as : List α} (fits : as.length < UInt64.size) (holds : Nat → Bool)
    (same : ∀ n, keeps n = holds n.toNat) : keepWords keeps 1 as = keepPlaces holds 1 as := by
  refine keepWordsPlaces same ?_
  rw [UInt64.toNat_one]
  omega

theorem selectedInWords {as : List α} (fits : as.length < UInt64.size) (spec : IndexSpec) :
    selectInWords as spec = selectIndex as spec := by
  cases spec with
  | exact p =>
    have member := indexMember fits p
    cases found : p.member? as <;> simp only [selectInWords, selectIndex, member, found]
  | between low high =>
    have same (n : UInt64) : (low ≤ n && n ≤ high : Bool) = (low.toNat ≤ n.toNat && n.toNat ≤ high.toNat : Bool) := by
      simp only [UInt64.le_iff_toNat_le]
    rw [selectInWords, selectIndex, keptInWords fits (fun n => low.toNat ≤ n && n ≤ high.toNat) same]
  | above bound =>
    have same (n : UInt64) : decide (bound < n) = decide (bound.toNat < n.toNat) := by
      simp only [UInt64.lt_iff_toNat_lt]
    rw [selectInWords, selectIndex, keptInWords fits (fun n => bound.toNat < n) same]
  | below bound =>
    have same (n : UInt64) : decide (n < bound) = decide (n.toNat < bound.toNat) := by
      simp only [UInt64.lt_iff_toNat_lt]
    rw [selectInWords, selectIndex, keptInWords fits (fun n => n < bound.toNat) same]

end Words

theorem indexesPick (as : List α) :
    (∀ r : IndexSpec, r.isRange = true →
      ∃ start kept, selectIndex as r = .ok (.many kept) ∧ Window as r.Keeps start kept) ∧
    (∀ spec out, selectIndex as spec = out ↔ Picks as 0 as.length spec out) ∧
    (∀ n, ∃ low high, selectIndex as (.below n) = .ok (.many low) ∧ selectIndex as (.above n) = .ok (.many high) ∧
      as = low ++ (selectIndex as (.exact (.nth n))).toOption.elim [] Scope.toList ++ high) ∧
    (∀ r start kept, selectIndex as r = .ok (.many kept) → Window as r.Keeps start kept →
      ∀ spec out, selectIndex kept spec = out ↔ Picks as start kept.length spec out) ∧
    (as.length < UInt64.size → ∀ spec, selectInWords as spec = selectIndex as spec) := by
  have picked {keeps : Nat → Prop} {start : Nat} {kept : List α} (window : Window as keeps start kept)
      (spec : IndexSpec) (out : Except ResolveError (Scope α)) :
      selectIndex kept spec = out ↔ Picks as start kept.length spec out := by
    constructor
    · rintro rfl
      exact windowPicks window spec
    · exact (windowPicks window spec).unique
  refine ⟨fun r ranges => rangeWindow ranges as, picked (wholeWindow as), fun n => ?_,
    fun r start kept _ window => picked window, selectedInWords⟩
  refine ⟨_, _, rfl, rfl, (keptAround n.toNat 1 as).symm.trans ?_⟩
  have member : (if 1 ≤ n.toNat then as[n.toNat - 1]? else none) = (Position.nth n).member? as := by
    rw [memberPlace, Position.place]
    cases n.toNat <;> rfl
  rw [member, selectIndex]
  cases (Position.nth n).member? as <;> rfl

theorem indexesPickFive :
    (IndexSpec.above 1).isRange = true ∧ selectIndex [10, 20, 30, 40, 50] (.above 1) = .ok (.many [20, 30, 40, 50]) ∧
    Window [10, 20, 30, 40, 50] (IndexSpec.above 1).Keeps 1 [20, 30, 40, 50] ∧
    Picks [10, 20, 30, 40, 50] 1 4 (.between 2 9) (.ok (.many [30, 40, 50])) ∧
    Picks [10, 20, 30, 40, 50] 1 4 (.exact .last) (.ok (.one 50)) ∧
    Picks [10, 20, 30, 40, 50] 1 4 (.exact (.nth 5)) (.error (.indexOutOfRange (.exact (.nth 5)) 4)) ∧
    [10, 20, 30, 40, 50].length < UInt64.size ∧
    selectInWords [10, 20, 30, 40, 50] (.between 4 0xFFFFFFFFFFFFFFFF) = .ok (.many [40, 50]) := by
  have selected : selectIndex [10, 20, 30, 40, 50] (.above 1) = .ok (.many [20, 30, 40, 50]) := rfl
  have window : Window [10, 20, 30, 40, 50] (IndexSpec.above 1).Keeps 1 [20, 30, 40, 50] :=
    ⟨⟨[10], [], rfl, rfl⟩, fun n => by simp [IndexSpec.Keeps]; omega⟩
  have fits : [10, 20, 30, 40, 50].length < UInt64.size := by decide
  obtain ⟨_, _, _, within, words⟩ := indexesPick [10, 20, 30, 40, 50]
  have picks := within _ _ _ selected window
  exact ⟨rfl, selected, window, (picks _ _).mp rfl, (picks _ _).mp rfl, (picks _ _).mp rfl, fits,
    (words fits _).trans rfl⟩

end LocatorPath
