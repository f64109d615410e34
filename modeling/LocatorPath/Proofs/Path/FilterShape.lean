import LocatorPath.Path.Segment
import Mathlib.Data.List.Basic

/-! The shape of a segment with a text filter. Several occurrences of the separator can cut such a
segment, and the reader takes the last one that leaves something on both sides. -/
namespace LocatorPath

structure Cut (separator cs before after : List Char) : Prop where
  text : cs = before ++ separator ++ after
  front : before ≠ []
  back : after ≠ []

structure LastCut (separator cs before after : List Char) : Prop extends
    Cut separator cs before after where
  last : ∀ b a, Cut separator cs b a → b.length ≤ before.length

namespace FilterKind

def opening : FilterKind → Char
  | contains => '#'
  | equals => '@'
  | pattern => '/'

def closing : FilterKind → List Char
  | contains | equals => chars " in "
  | pattern => chars "/ in "

end FilterKind

structure FilterShape (cs : List Char) (kind : FilterKind) (value target : List Char) : Prop where
  text : ∃ body, cs = kind.opening :: body ∧ Cut kind.closing body value target
  line : '\n' ∉ cs

structure TextShape (cs : List Char) (cardinality : Cardinality) (kind : FilterKind)
    (value target : List Char) : Prop where
  text : ∃ body, cs = cardinality.written ++ kind.opening :: body ∧
    LastCut kind.closing body value target
  line : '\n' ∉ cs

theorem Cut.tail {separator rest before after : List Char} {c : Char}
    (cut : Cut separator (c :: rest) before after) :
    (before = [c] ∧ rest = separator ++ after) ∨
      ∃ shorter, before = c :: shorter ∧ Cut separator rest shorter after := by
  obtain ⟨d, shorter, rfl⟩ := List.exists_cons_of_ne_nil cut.front
  have text := cut.text
  simp only [List.cons_append, List.cons.injEq] at text
  obtain ⟨rfl, text⟩ := text
  cases shorter with
  | nil => exact Or.inl ⟨rfl, text⟩
  | cons e more => exact Or.inr ⟨e :: more, rfl, text, by simp, cut.back⟩

theorem cutLastFinds {separator cs before after : List Char} (cut : Cut separator cs before after) :
    ∃ found, cutLast? separator cs = some found := by
  induction cs generalizing before with
  | nil =>
    have text := cut.text
    simp [cut.front] at text
  | cons c rest ih =>
    unfold cutLast?
    cases later : cutLast? separator rest with
    | some found => exact ⟨_, rfl⟩
    | none =>
      rcases cut.tail with ⟨_, text⟩ | ⟨shorter, _, tail⟩
      · obtain ⟨d, more, same⟩ := List.exists_cons_of_ne_nil cut.back
        rw [List.isPrefixOf?_eq_some_iff_append_eq.mpr text.symm, same]
        exact ⟨_, rfl⟩
      · obtain ⟨found, some⟩ := ih tail
        rw [later] at some
        contradiction

theorem cutLastSound {separator cs before after : List Char}
    (found : cutLast? separator cs = some (before, after)) :
    LastCut separator cs before after := by
  induction cs generalizing before after with
  | nil => simp [cutLast?] at found
  | cons c rest ih =>
    unfold cutLast? at found
    split at found
    · next shorter _ later =>
      cases found
      have tail := ih later
      refine ⟨⟨by rw [tail.text]; rfl, by simp, tail.back⟩, fun b a cut => ?_⟩
      rcases cut.tail with ⟨rfl, _⟩ | ⟨less, rfl, shorterCut⟩
      · simp
      · simpa using tail.last less a shorterCut
    · next none =>
      split at found <;> try contradiction
      next d after here =>
      cases found
      have text := List.append_eq_of_isPrefixOf?_eq_some here
      refine ⟨⟨by rw [← text]; rfl, by simp, by simp⟩, fun b a cut => ?_⟩
      rcases cut.tail with ⟨rfl, _⟩ | ⟨less, _, cut⟩
      · simp
      · obtain ⟨found, some⟩ := cutLastFinds cut
        rw [none] at some
        contradiction

theorem LastCut.unique {separator cs before after b a : List Char}
    (left : LastCut separator cs before after) (right : LastCut separator cs b a) :
    before = b ∧ after = a := by
  have same := left.text.symm.trans right.text
  rw [List.append_assoc, List.append_assoc] at same
  have length := Nat.le_antisymm (right.last _ _ left.toCut) (left.last _ _ right.toCut)
  obtain ⟨front, back⟩ := List.append_inj same length
  exact ⟨front, List.append_cancel_left back⟩

theorem cutLastExact {separator cs before after : List Char} :
    cutLast? separator cs = some (before, after) ↔ LastCut separator cs before after := by
  refine ⟨cutLastSound, fun cut => ?_⟩
  obtain ⟨⟨b, a⟩, found⟩ := cutLastFinds cut.toCut
  obtain ⟨rfl, rfl⟩ := cut.unique (cutLastSound found)
  exact found

theorem filterFormExact {cs value target : List Char} {kind : FilterKind} :
    filterForm? cs = some (kind, value, target) ↔
      ∃ body, cs = kind.opening :: body ∧ LastCut kind.closing body value target := by
  constructor
  · intro read
    unfold filterForm? at read
    split at read <;> try contradiction
    all_goals
      next body =>
      obtain ⟨⟨v, t⟩, found, same⟩ := Option.map_eq_some_iff.mp read
      cases same
      exact ⟨body, rfl, cutLastSound found⟩
  · rintro ⟨body, rfl, cut⟩
    have found := cutLastExact.mpr cut
    cases kind <;> simp only [FilterKind.closing] at found <;>
      simp [filterForm?, FilterKind.opening, found]

theorem allNotOpening (kind : FilterKind) (body : List Char) :
    (chars "all ").isPrefixOf? (kind.opening :: body) = none := by
  cases kind <;> rfl

theorem textFormExact {cs value target : List Char} {cardinality : Cardinality}
    {kind : FilterKind} :
    textForm? cs = some (cardinality, kind, value, target) ↔
      TextShape cs cardinality kind value target := by
  have oneLine : cs.any (· == '\n') = false ↔ '\n' ∉ cs := by
    rw [Bool.eq_false_iff, ne_eq, List.any_beq', List.contains_iff_mem]
  constructor
  · intro read
    unfold textForm? at read
    split at read <;> try contradiction
    next line =>
    have line := oneLine.mp (Bool.eq_false_iff.mpr line)
    split at read
    · next rest all =>
      obtain ⟨form, found, same⟩ := Option.map_eq_some_iff.mp read
      cases same
      obtain ⟨body, rfl, cut⟩ := filterFormExact.mp found
      exact ⟨⟨body, (List.append_eq_of_isPrefixOf?_eq_some all).symm, cut⟩, line⟩
    · obtain ⟨form, found, same⟩ := Option.map_eq_some_iff.mp read
      cases same
      obtain ⟨body, rfl, cut⟩ := filterFormExact.mp found
      exact ⟨⟨body, rfl, cut⟩, line⟩
  · rintro ⟨⟨body, text, cut⟩, line⟩
    unfold textForm?
    rw [if_neg (Bool.eq_false_iff.mp (oneLine.mpr line)), text]
    have found := filterFormExact.mpr ⟨body, rfl, cut⟩
    cases cardinality with
    | first => simp [Cardinality.written, allNotOpening, found]
    | all =>
      have all : (chars "all ").isPrefixOf? (chars "all " ++ kind.opening :: body) =
          some (kind.opening :: body) := List.isPrefixOf?_eq_some_iff_append_eq.mpr rfl
      simp [Cardinality.written, all, found]

theorem textFormNone {cs : List Char} :
    textForm? cs = none ↔ ∀ cardinality kind value target,
      ¬ TextShape cs cardinality kind value target := by
  rw [Option.eq_none_iff_forall_ne_some]
  exact ⟨fun none c kind value target shape => none _ (textFormExact.mpr shape),
    fun none form read => none _ _ _ _ (textFormExact.mp read)⟩

end LocatorPath
