import LocatorPath.Path.Segment
import LocatorPath.Proofs.Unicode.Trim
import Mathlib.Data.List.Forall2

/-! Where a path is cut. A `>` separates unless a `#` stands right before it, so a text is one piece
exactly when each of its `>` follows a `#`. Joining steps with spaces around the separator keeps
this, and trimming takes the spaces away again. -/
namespace LocatorPath
open Unicode (isBlank trim Blank Trimmed)

/- Whether the character before the rest of a path is `#`, as the cutting carries it along. -/
def endsHash : Bool → List Char → Bool
  | afterHash, [] => afterHash
  | _, c :: rest => endsHash (c == '#') rest

def UnbrokenAfter (afterHash : Bool) (cs : List Char) : Prop :=
  ∀ before after, cs = before ++ '>' :: after → endsHash afterHash before = true

def Unbroken (cs : List Char) : Prop :=
  ∀ before after, cs = before ++ '>' :: after → ∃ rest, before = rest ++ ['#']

@[simp] theorem endsHashAppend (afterHash : Bool) (front back : List Char) :
    endsHash afterHash (front ++ back) = endsHash (endsHash afterHash front) back := by
  induction front generalizing afterHash with
  | nil => rfl
  | cons c rest ih => exact ih _

theorem endsHashIff (cs : List Char) : endsHash false cs = true ↔ ∃ rest, cs = rest ++ ['#'] := by
  constructor
  · intro hash
    obtain rfl | ⟨rest, c, rfl⟩ := cs.eq_nil_or_concat'
    · simp [endsHash] at hash
    · have mark : c = '#' := by simpa [endsHash] using hash
      exact ⟨rest, by rw [mark]⟩
  · rintro ⟨rest, rfl⟩
    simp [endsHash]

theorem unbrokenIff {cs : List Char} : Unbroken cs ↔ UnbrokenAfter false cs := by
  simp only [Unbroken, UnbrokenAfter, endsHashIff]

theorem unbrokenCons {afterHash : Bool} {c : Char} {rest : List Char} :
    UnbrokenAfter afterHash (c :: rest) ↔
      (c = '>' → afterHash = true) ∧ UnbrokenAfter (c == '#') rest := by
  constructor
  · intro whole
    refine ⟨fun same => whole [] rest (by rw [same]; rfl), fun before after same => ?_⟩
    exact whole (c :: before) after (by rw [same]; rfl)
  · rintro ⟨head, tail⟩ before after same
    cases before with
    | nil => exact head (List.cons.inj same).1
    | cons d before =>
      obtain ⟨head, inner⟩ := List.cons.inj same
      subst head
      exact tail before after inner

theorem unbrokenAppend {afterHash : Bool} {front back : List Char} :
    UnbrokenAfter afterHash (front ++ back) ↔
      UnbrokenAfter afterHash front ∧ UnbrokenAfter (endsHash afterHash front) back := by
  induction front generalizing afterHash with
  | nil => simp [UnbrokenAfter, endsHash]
  | cons c rest ih => rw [List.cons_append, unbrokenCons, unbrokenCons, ih, and_assoc]; rfl

theorem unbrokenFree {afterHash : Bool} {cs : List Char} (free : '>' ∉ cs) :
    UnbrokenAfter afterHash cs := by
  intro before after same
  exact absurd (by rw [same]; simp) free

theorem cutHereIff {afterHash : Bool} {c : Char} :
    (c == '>' && !afterHash) = true ↔ ¬ (c = '>' → afterHash = true) := by
  cases afterHash <;> simp

theorem cutPiecesWhole {afterHash : Bool} {cs : List Char} (whole : UnbrokenAfter afterHash cs) :
    cutPieces afterHash cs = (cs, []) := by
  induction cs generalizing afterHash with
  | nil => rfl
  | cons c rest ih =>
    obtain ⟨head, tail⟩ := unbrokenCons.mp whole
    simp only [cutPieces, ih tail]
    rw [if_neg fun cut => cutHereIff.mp cut head]

theorem cutPiecesCut {afterHash : Bool} {cs : List Char} (whole : UnbrokenAfter afterHash cs)
    (ends : endsHash afterHash cs = false) (rest : List Char) :
    cutPieces afterHash (cs ++ '>' :: rest) = (cs, pieces rest) := by
  induction cs generalizing afterHash with
  | nil =>
    rw [endsHash] at ends
    subst ends
    rfl
  | cons c more ih =>
    obtain ⟨head, tail⟩ := unbrokenCons.mp whole
    simp only [List.cons_append, cutPieces, ih tail ends]
    rw [if_neg fun cut => cutHereIff.mp cut head]

theorem piecesWhole {cs : List Char} (whole : Unbroken cs) : pieces cs = [cs] := by
  rw [pieces, cutPiecesWhole (unbrokenIff.mp whole)]

theorem piecesCut {cs : List Char} (whole : Unbroken cs) (ends : endsHash false cs = false)
    (rest : List Char) : pieces (cs ++ '>' :: rest) = cs :: pieces rest := by
  rw [pieces, cutPiecesCut (unbrokenIff.mp whole) ends]

theorem cutPiecesUnbroken (afterHash : Bool) (cs : List Char) :
    UnbrokenAfter afterHash (cutPieces afterHash cs).1 ∧
      ∀ piece ∈ (cutPieces afterHash cs).2, Unbroken piece := by
  induction cs generalizing afterHash with
  | nil => exact ⟨unbrokenFree (by simp [cutPieces]), by simp [cutPieces]⟩
  | cons c rest ih =>
    obtain ⟨first, others⟩ := ih (c == '#')
    simp only [cutPieces]
    split
    · next cut =>
      rw [Bool.and_eq_true, beq_iff_eq] at cut
      obtain ⟨rfl, _⟩ := cut
      refine ⟨unbrokenFree (by simp), fun piece inside => ?_⟩
      rcases List.mem_cons.mp inside with rfl | inside
      · exact unbrokenIff.mpr first
      · exact others piece inside
    · next inside =>
      exact ⟨unbrokenCons.mpr ⟨not_not.mp (mt cutHereIff.mpr inside), first⟩, others⟩

theorem piecesUnbroken {cs piece : List Char} (inside : piece ∈ pieces cs) : Unbroken piece := by
  obtain ⟨first, others⟩ := cutPiecesUnbroken false cs
  rcases List.mem_cons.mp inside with rfl | inside
  · exact unbrokenIff.mpr first
  · exact others piece inside

theorem unbrokenIffPieces {cs : List Char} : Unbroken cs ↔ pieces cs = [cs] :=
  ⟨piecesWhole, fun one => piecesUnbroken (by rw [one]; exact List.mem_singleton_self cs)⟩

theorem cutPiecesJoin (afterHash : Bool) (cs : List Char) :
    (cutPieces afterHash cs).1 ++ (cutPieces afterHash cs).2.flatMap ('>' :: ·) = cs := by
  induction cs generalizing afterHash with
  | nil => rfl
  | cons c rest ih =>
    simp only [cutPieces]
    split
    · next cut =>
      rw [Bool.and_eq_true, beq_iff_eq] at cut
      rw [List.nil_append, List.flatMap_cons, List.cons_append, ih, cut.1]
    · rw [List.cons_append, ih]

theorem piecesSubset {cs piece : List Char} (inside : piece ∈ pieces cs) : piece ⊆ cs := by
  intro c member
  rw [← cutPiecesJoin false cs, List.mem_append, List.mem_flatMap]
  rcases List.mem_cons.mp inside with rfl | inside
  · exact Or.inl member
  · exact Or.inr ⟨piece, inside, List.mem_cons_of_mem _ member⟩

theorem mapMOk {α β ε : Type} {f : α → Except ε β} {xs : List α} {ys : List β} :
    xs.mapM f = .ok ys ↔ List.Forall₂ (fun x y => f x = .ok y) xs ys := by
  induction xs generalizing ys with
  | nil => cases ys <;> simp [pure, Except.pure]
  | cons x xs ih =>
    rw [List.mapM_cons]
    cases head : f x with
    | error e => cases ys <;> simp [bind, Except.bind, head]
    | ok y =>
      cases tail : xs.mapM f with
      | error e => cases ys <;> simp [bind, Except.bind, ← ih, tail]
      | ok rest => cases ys <;> simp [bind, Except.bind, pure, Except.pure, ← ih, tail, head]

theorem forall₂Member {α β : Type} {R : α → β → Prop} {xs : List α} {ys : List β}
    (all : List.Forall₂ R xs ys) {y : β} (inside : y ∈ ys) : ∃ x ∈ xs, R x y := by
  induction all with
  | nil => simp at inside
  | cons head tail ih =>
    rcases List.mem_cons.mp inside with rfl | inside
    · exact ⟨_, List.mem_cons_self, head⟩
    · obtain ⟨x, member, related⟩ := ih inside
      exact ⟨x, List.mem_cons_of_mem _ member, related⟩

theorem forall₂Exists {α β : Type} {R : α → β → Prop} {xs : List α}
    (each : ∀ x ∈ xs, ∃ y, R x y) : ∃ ys, List.Forall₂ R xs ys := by
  induction xs with
  | nil => exact ⟨[], .nil⟩
  | cons x rest ih =>
    obtain ⟨y, head⟩ := each x List.mem_cons_self
    obtain ⟨ys, tail⟩ := ih fun z inside => each z (List.mem_cons_of_mem x inside)
    exact ⟨y :: ys, .cons head tail⟩

theorem parseOk {path : String} {steps : List Step} :
    parse path = .ok steps ↔ ¬ Blank path.toList ∧
      List.Forall₂ (fun piece s => parseSegment (String.ofList (trim piece)) = .ok s)
        (pieces path.toList) steps := by
  have within {piece : List Char} {s : Step} :
      (parseSegment (String.ofList (trim piece))).mapError (·.within path) = .ok s ↔
        parseSegment (String.ofList (trim piece)) = .ok s := by
    cases parseSegment (String.ofList (trim piece)) <;> simp [Except.mapError]
  unfold parse
  by_cases blank : path.toList.all isBlank = true
  · rw [if_pos blank]
    exact ⟨fun read => by contradiction,
      fun read => absurd (List.all_eq_true.mp blank) read.1⟩
  · rw [if_neg blank, mapMOk]
    simp only [within]
    exact (and_iff_right fun all => blank (List.all_eq_true.mpr all)).symm

/- What the written form of a step has to be like for its neighbours to leave it alone. -/
structure Standalone (cs : List Char) : Prop where
  nonempty : cs ≠ []
  trimmed : Trimmed cs
  unbroken : Unbroken cs

theorem Standalone.spaced {cs : List Char} (alone : Standalone cs) (front : List Char)
    (space : front = [] ∨ front = [' ']) : Unbroken (front ++ cs) ∧ Blank front := by
  rcases space with rfl | rfl
  · exact ⟨alone.unbroken, Unicode.blankNil⟩
  · refine ⟨?_, by simp [Blank, isBlank, Unicode.blankRanges]⟩
    rw [unbrokenIff, unbrokenAppend]
    exact ⟨unbrokenFree (by decide), unbrokenIff.mp alone.unbroken⟩

theorem piecesWritten {steps : List Step} (nonempty : steps ≠ [])
    (alone : ∀ s ∈ steps, Standalone s.written) {front : List Char}
    (space : front = [] ∨ front = [' ']) :
    (pieces (front ++ writtenPath steps)).map trim = steps.map Step.written := by
  induction steps generalizing front with
  | nil => contradiction
  | cons s rest ih =>
    have head := alone s List.mem_cons_self
    obtain ⟨whole, blank⟩ := head.spaced front space
    cases rest with
    | nil =>
      have kept := Unicode.trimAround blank Unicode.blankNil head.trimmed
      rw [List.append_nil] at kept
      simp [writtenPath, piecesWhole whole, kept]
    | cons t more =>
      have tail := ih (by simp) (fun u inside => alone u (List.mem_cons_of_mem _ inside))
        (Or.inr rfl)
      have blankEnd : Blank [' '] := by simp [Blank, isBlank, Unicode.blankRanges]
      have kept := Unicode.trimAround blank blankEnd head.trimmed
      have ends : endsHash false (front ++ s.written ++ [' ']) = false := by simp [endsHash]
      have whole : Unbroken (front ++ s.written ++ [' ']) := by
        rw [unbrokenIff, unbrokenAppend]
        exact ⟨unbrokenIff.mp whole, unbrokenFree (by decide)⟩
      have shape : front ++ writtenPath (s :: t :: more) =
          front ++ s.written ++ [' '] ++ '>' :: ([' '] ++ writtenPath (t :: more)) := by
        simp [writtenPath, chars]
      rw [shape, piecesCut whole ends, List.map_cons, List.map_cons, kept, tail]

theorem writtenNotBlank {steps : List Step} (nonempty : steps ≠ [])
    (alone : ∀ s ∈ steps, Standalone s.written) : ¬ Blank (writtenPath steps) := by
  obtain ⟨s, rest, rfl⟩ := List.exists_cons_of_ne_nil nonempty
  have head := alone s List.mem_cons_self
  obtain ⟨c, more, same⟩ := List.exists_cons_of_ne_nil head.nonempty
  have plain := head.trimmed.1 c (by rw [same]; rfl)
  intro blank
  have inside : c ∈ writtenPath (s :: rest) := by
    cases rest <;> simp [writtenPath, same]
  rw [blank c inside] at plain
  contradiction

theorem parseRendered {steps again : List Step} (nonempty : steps ≠ [])
    (alone : ∀ s ∈ steps, Standalone s.written) :
    parse (renderPath steps) = .ok again ↔
      List.Forall₂ (fun s t => parseSegment s.render = .ok t) steps again := by
  have cut := piecesWritten nonempty alone (Or.inl rfl)
  rw [List.nil_append] at cut
  rw [parseOk, renderPath, String.toList_ofList, and_iff_right (writtenNotBlank nonempty alone)]
  have trimmed := List.forall₂_map_left_iff (f := trim) (l := pieces (writtenPath steps))
    (R := fun piece s => parseSegment (String.ofList piece) = .ok s) (u := again)
  rw [← trimmed, cut, List.forall₂_map_left_iff]
  rfl

end LocatorPath
