import Mathlib.Algebra.Order.Field.Rat
import Mathlib.Data.Prod.Lex
import Mathlib.Data.String.Basic
import LocatorPath.Proofs.Definition.Edit
import LocatorPath.Proofs.Definition.History

/-! Suggestions for an alias that is not registered. Near aliases are told by the number of edits, but ranked by the
share of edits in the longer text, so that a greater distance can come first. Aliases of equal shares are in their own
order, which leaves one list for each set of aliases. -/
namespace LocatorPath.Registry

noncomputable def editShare (query name : String) : ℚ :=
  (leastEdits query.toList name.toList : ℚ) / (max query.length name.length : ℕ)

def Nearer (query a b : String) : Prop :=
  editShare query a < editShare query b ∨
    editShare query a = editShare query b ∧ Octets.ofText a < Octets.ofText b

noncomputable def rank (query name : String) : ℚ ×ₗ String := toLex (editShare query name, name)

def mayPrecede (query a b : String) : Bool :=
  !ratioLe (distanceRatio query b) (distanceRatio query a) ||
    ratioLe (distanceRatio query a) (distanceRatio query b) && decide (a ≤ b)

section Ranking

variable {query a b : String}

theorem ratioIff (known : 0 < max query.length a.length) (other : 0 < max query.length b.length) :
    ratioLe (distanceRatio query a) (distanceRatio query b) = true ↔ editShare query a ≤ editShare query b := by
  rw [ratioLe, decide_eq_true_eq, editShare, editShare, ← distanceLeast, ← distanceLeast,
    div_le_div_iff₀ (Nat.cast_pos.mpr known) (Nat.cast_pos.mpr other)]
  exact_mod_cast Iff.rfl

theorem shareEmpty : editShare "" "" = 0 := by simp [editShare]

theorem shareFromEmpty (long : 0 < a.length) : editShare "" a = 1 := by
  have all : leastEdits [] a.toList = a.length := by rw [← distanceLeast, distanceNil, String.length_toList]
  have length : (a.length : ℚ) ≠ 0 := Nat.cast_ne_zero.mpr (Nat.ne_of_gt long)
  simp [editShare, all, length]

theorem shareNonneg : 0 ≤ editShare query a := div_nonneg (Nat.cast_nonneg _) (Nat.cast_nonneg _)

theorem emptyFirst (a : String) : "" ≤ a := String.not_lt.mp fun below => List.not_lt_nil a.toList below

theorem lengthsNone (none : ¬ 0 < max query.length a.length) : query = "" ∧ a = "" := by
  have zero : query.length = 0 ∧ a.length = 0 := by omega
  exact ⟨String.length_eq_zero_iff.mp zero.1, String.length_eq_zero_iff.mp zero.2⟩

theorem mayPrecedeIff : mayPrecede query a b = true ↔ rank query a ≤ rank query b := by
  rw [rank, rank, Prod.Lex.toLex_le_toLex, mayPrecede, Bool.or_eq_true, Bool.not_eq_true', Bool.and_eq_true,
    decide_eq_true_eq, ← Bool.not_eq_true]
  by_cases known : 0 < max query.length a.length
  · by_cases other : 0 < max query.length b.length
    · rw [ratioIff known other, ratioIff other known, not_le]
      constructor
      · rintro (less | ⟨most, first⟩)
        · exact .inl less
        · exact most.lt_or_eq.imp_right fun same => ⟨same, first⟩
      · rintro (less | ⟨same, first⟩)
        · exact .inl less
        · exact .inr ⟨same.le, first⟩
    · obtain ⟨rfl, rfl⟩ := lengthsNone other
      have long : 0 < a.length := by simpa using known
      have later : ¬ a ≤ "" := fun above => by
        obtain rfl : a = "" := String.le_antisymm above (emptyFirst a)
        exact absurd long (Nat.lt_irrefl 0)
      simp [ratioLe, distanceRatio, shareEmpty, shareFromEmpty long, later, editDistance, distances]
  · obtain ⟨rfl, rfl⟩ := lengthsNone known
    have least : 0 < editShare "" b ∨ 0 = editShare "" b := shareNonneg.lt_or_eq
    simpa [ratioLe, distanceRatio, shareEmpty, emptyFirst, editDistance, distances] using least

theorem rankNearer (order : rank query a ≤ rank query b) (apart : a ≠ b) : Nearer query a b := by
  rw [rank, rank, Prod.Lex.toLex_le_toLex] at order
  refine order.imp_right fun ⟨same, first⟩ => ⟨same, Octets.ofTextBelow ?_⟩
  exact String.not_le.mp fun back => apart (String.le_antisymm first back)

end Ranking

section Suggestions

variable {r s : Registry} {query name : String}

theorem suggestSorts (r : Registry) (query : String) : r.suggest query =
    (r.aliases.filter fun a => editDistance query.toList a.toList ≤ nearness query).mergeSort (mayPrecede query) := rfl

theorem suggestMember : name ∈ r.suggest query ↔
    name ∈ r.aliases ∧ leastEdits query.toList name.toList ≤ max 2 (query.length / 3) := by
  rw [suggestSorts, List.mem_mergeSort, List.mem_filter, decide_eq_true_eq, distanceLeast, nearness]

theorem suggestNodup (r : Registry) (query : String) : (r.suggest query).Nodup := by
  rw [suggestSorts, (List.mergeSort_perm _ _).nodup_iff]
  exact r.distinct.filter _

theorem suggestRanked (r : Registry) (query : String) :
    (r.suggest query).Pairwise fun a b => rank query a ≤ rank query b := by
  have trans (a b c : String) (first : mayPrecede query a b = true) (second : mayPrecede query b c = true) :
      mayPrecede query a c = true :=
    mayPrecedeIff.mpr ((mayPrecedeIff.mp first).trans (mayPrecedeIff.mp second))
  have total (a b : String) : (mayPrecede query a b || mayPrecede query b a) = true := by
    rw [Bool.or_eq_true, mayPrecedeIff, mayPrecedeIff]
    exact le_total (rank query a) (rank query b)
  rw [suggestSorts]
  exact (List.pairwise_mergeSort trans total _).imp mayPrecedeIff.mp

theorem suggestNearer (r : Registry) (query : String) : (r.suggest query).Pairwise (Nearer query) :=
  ((suggestRanked r query).and (suggestNodup r query)).imp fun ⟨order, apart⟩ => rankNearer order apart

theorem rankedOnce {names others : List String} (same : names.Perm others)
    (ranked : names.Pairwise fun a b => rank query a ≤ rank query b)
    (ordered : others.Pairwise fun a b => rank query a ≤ rank query b) : names = others := by
  refine same.eq_of_pairwise (fun a b _ _ first back => ?_) ranked ordered
  exact congrArg (fun key : ℚ ×ₗ String => (ofLex key).2) (le_antisymm first back)

theorem suggestPerm (same : s.aliases.Perm r.aliases) (query : String) : s.suggest query = r.suggest query := by
  have members : (s.suggest query).Perm (r.suggest query) := by
    rw [suggestSorts, suggestSorts]
    exact ((List.mergeSort_perm _ _).trans (same.filter _)).trans (List.mergeSort_perm _ _).symm
  exact rankedOnce members (suggestRanked s query) (suggestRanked r query)

theorem afterAliases (calls : List Declaration) (name : String) :
    name ∈ (after calls).aliases ↔ Unicode.trim name.toList ≠ [] ∧ name ∈ calls.map Declaration.name := by
  rw [aliasFound, afterGet, firstOffered]
  by_cases blank : Unicode.trim name.toList = []
  · simp [blank]
  · simp [blank, List.find?_isSome, Declaration.name]

theorem afterPerm {calls others : List Declaration} (same : calls.Perm others) :
    (after others).aliases.Perm (after calls).aliases := by
  refine (List.perm_ext_iff_of_nodup (after others).distinct (after calls).distinct).mpr fun name => ?_
  rw [afterAliases, afterAliases, (same.map Declaration.name).mem_iff]

theorem lookupFails {e : LookupError} :
    r.lookup query = .error e ↔ query ∉ r.aliases ∧ e = ⟨query, r.suggest query⟩ := by
  have missing : query ∉ r.aliases ↔ r.get? query = none := by
    rw [getNone, aliases, List.mem_map]
    simp
  rw [missing, lookup]
  cases r.get? query <;> simp [eq_comm]

theorem lookupFinds {d : Definition} :
    r.lookup query = .ok d ↔ d ∈ r.definitions ∧ d.name = query := by
  rw [← getMember, lookup]
  cases r.get? query <;> simp

/- The suggestions for a text are the registered aliases within reach of it, each once and the nearest first, however
the aliases have come into the registry. They go with the failure to look up a text that is not registered, and do not
hold it. -/
theorem nearAliasesSuggested (r : Registry) (query : String) :
    (∀ name, name ∈ r.suggest query ↔
      name ∈ r.aliases ∧ leastEdits query.toList name.toList ≤ max 2 (query.length / 3)) ∧
    (r.suggest query).Nodup ∧
    (r.suggest query).Pairwise (Nearer query) ∧
    (∀ s : Registry, s.aliases.Perm r.aliases → s.suggest query = r.suggest query) ∧
    (∀ calls others, calls.Perm others → r = after calls → (after others).suggest query = r.suggest query) ∧
    (∀ e, r.lookup query = .error e ↔ query ∉ r.aliases ∧ e = ⟨query, r.suggest query⟩) ∧
    (∀ e, r.lookup query = .error e → query ∉ e.suggestions) ∧
    ∀ d, r.lookup query = .ok d ↔ d ∈ r.definitions ∧ d.name = query := by
  refine ⟨fun name => suggestMember, suggestNodup r query, suggestNearer r query,
    fun s same => suggestPerm same query, fun calls others same built => ?_, fun e => lookupFails, fun e fails => ?_,
    fun d => lookupFinds⟩
  · rw [built]
    exact suggestPerm (afterPerm same) query
  · obtain ⟨missing, rfl⟩ := lookupFails.mp fails
    exact fun inside => missing (suggestMember.mp inside).1

def letters : Registry where
  definitions :=
    [.element "abc" (.css "ul"), .collection "b" (.css "li"), .element "c" (.css "li"), .element "wide" (.css "ol")]

/- The alias with the greater distance comes first, since it is longer. -/
theorem lettersSuggested : letters.suggest "a" = ["abc", "b", "c"] := by
  have near : (letters.suggest "a").Perm ["abc", "b", "c"] := by
    rw [suggestSorts]
    exact (List.mergeSort_perm _ _).trans (by decide)
  have order : ["abc", "b", "c"].Pairwise fun a b => mayPrecede "a" a b = true := by decide
  exact rankedOnce near (suggestRanked letters "a") (order.imp mayPrecedeIff.mp)

theorem nearAliasesSuggestedLetters :
    letters.lookup "a" = .error ⟨"a", ["abc", "b", "c"]⟩ ∧ "wide" ∉ letters.suggest "a" ∧
      ["abc", "b", "c"].Pairwise (Nearer "a") := by
  obtain ⟨members, _, nearer, _, _, fails, _⟩ := nearAliasesSuggested letters "a"
  rw [lettersSuggested] at nearer fails
  refine ⟨(fails _).mpr ⟨by decide, rfl⟩, fun inside => ?_, nearer⟩
  obtain ⟨_, near⟩ := (members "wide").mp inside
  rw [← distanceLeast] at near
  exact absurd near (by decide)

end Suggestions

end LocatorPath.Registry
