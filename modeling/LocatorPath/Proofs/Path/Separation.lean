import LocatorPath.Proofs.Path.Pieces

/-! What a path is cut into. The pieces with their separators give the path back, and a `>` is at one of two kinds of
places: between two pieces, or behind a `#` within one. A path can be read when all its pieces can, and otherwise the
first piece that cannot be read says why. -/
namespace LocatorPath
open Unicode (Blank trim)

def joined (ps : List (List Char)) : List Char := ['>'].intercalate ps

def CutAt (ps : List (List Char)) (before after : List Char) : Prop :=
  ∃ left right, left ≠ [] ∧ right ≠ [] ∧ ps = left ++ right ∧ joined left = before ∧ joined right = after

def InsideAt (ps : List (List Char)) (before after : List Char) : Prop :=
  ∃ left front back right, ps = left ++ (front ++ '>' :: back) :: right ∧
    joined (left ++ [front]) = before ∧ joined (back :: right) = after

def separates (cs : List Char) : Nat → Bool
  | 0 => cs[0]? == some '>'
  | n + 1 => cs[n + 1]? == some '>' && cs[n]? != some '#'

section Joining

variable {left right ps : List (List Char)} {before after : List Char}

theorem joinedCons (p : List Char) (ps : List (List Char)) : joined (p :: ps) = p ++ ps.flatMap ('>' :: ·) := by
  induction ps generalizing p with
  | nil => simp [joined]
  | cons q ps ih =>
    rw [joined, List.intercalate_cons_cons, List.flatMap_cons]
    change p ++ ['>'] ++ joined (q :: ps) = _
    rw [ih q]
    simp

theorem joinedAppend (some : left ≠ []) (more : right ≠ []) :
    joined (left ++ right) = joined left ++ '>' :: joined right := by
  obtain ⟨p, left, rfl⟩ := List.exists_cons_of_ne_nil some
  obtain ⟨q, right, rfl⟩ := List.exists_cons_of_ne_nil more
  rw [List.cons_append, joinedCons, joinedCons, joinedCons]
  simp

theorem joinedEnd (left : List (List Char)) (front back : List Char) :
    joined (left ++ [front ++ back]) = joined (left ++ [front]) ++ back := by
  cases left with
  | nil => simp [joined]
  | cons p left =>
    rw [joinedAppend (List.cons_ne_nil _ _) (List.cons_ne_nil _ _),
      joinedAppend (List.cons_ne_nil _ _) (List.cons_ne_nil _ _)]
    simp [joined]

theorem notShorter {front back : List Char} (c : Char) : front ≠ front ++ c :: back := by simp

theorem notBoth (cut : CutAt ps before after) (inside : InsideAt ps before after) : False := by
  obtain ⟨left, right, some, more, rfl, rfl, rfl⟩ := cut
  obtain ⟨init, front, back, rest, same, first, second⟩ := inside
  rcases List.append_eq_append_iff.mp same with ⟨between, rfl, _⟩ | ⟨between, rfl, tail⟩
  · rw [List.append_assoc, joinedAppend some (by simp)] at first
    exact notShorter '>' first.symm
  · cases between with
    | nil =>
      rw [List.append_nil] at some first
      rw [joinedAppend some (List.cons_ne_nil _ _)] at first
      exact notShorter '>' first.symm
    | cons p between =>
      obtain ⟨rfl, rfl⟩ := List.cons.inj tail
      have longer : ∃ c more,
          joined (init ++ (front ++ '>' :: back) :: between) = joined (init ++ [front]) ++ c :: more := by
        cases between with
        | nil => exact ⟨'>', back, joinedEnd init front ('>' :: back)⟩
        | cons q between =>
          refine ⟨'>', back ++ '>' :: joined (q :: between), ?_⟩
          rw [List.append_cons, joinedAppend (by simp) (List.cons_ne_nil _ _), joinedEnd]
          simp
      obtain ⟨c, more, longer⟩ := longer
      rw [longer] at first
      exact notShorter c first

end Joining

section Cutting

variable {before after : List Char} {afterHash : Bool}

theorem piecesJoined (cs : List Char) : joined (pieces cs) = cs := by
  rw [pieces, joinedCons, cutPiecesJoin]

/- The pieces of a text that the cutting has come to, with what stands before it. -/
def piecesAfter (afterHash : Bool) (cs : List Char) : List (List Char) :=
  (cutPieces afterHash cs).1 :: (cutPieces afterHash cs).2

theorem piecesAfterCons (afterHash : Bool) (c : Char) (rest : List Char) : piecesAfter afterHash (c :: rest) =
    if c = '>' ∧ afterHash = false then [] :: piecesAfter (c == '#') rest
    else (c :: (cutPieces (c == '#') rest).1) :: (cutPieces (c == '#') rest).2 := by
  simp only [piecesAfter, cutPieces, Bool.and_eq_true, beq_iff_eq, Bool.not_eq_true']
  split <;> rfl

theorem piecesBetween (ends : endsHash afterHash before = false) :
    piecesAfter afterHash (before ++ '>' :: after) = piecesAfter afterHash before ++ pieces after := by
  induction before generalizing afterHash with
  | nil =>
    rw [endsHash] at ends
    subst ends
    rfl
  | cons c rest ih =>
    have tail := ih ends
    rw [List.cons_append, piecesAfterCons, piecesAfterCons]
    split
    · rw [tail, List.cons_append]
    · obtain ⟨first, others⟩ := List.cons.inj tail
      rw [first, others]
      rfl

theorem piecesWithin (ends : endsHash afterHash before = true) (after : List Char) : ∃ left front back right,
    piecesAfter afterHash before = left ++ [front] ∧ pieces after = back :: right ∧
    piecesAfter afterHash (before ++ '>' :: after) = left ++ (front ++ '>' :: back) :: right := by
  induction before generalizing afterHash with
  | nil =>
    rw [endsHash] at ends
    subst ends
    exact ⟨[], [], _, _, rfl, rfl, rfl⟩
  | cons c rest ih =>
    obtain ⟨left, front, back, right, first, second, whole⟩ := ih ends
    rw [List.cons_append, piecesAfterCons, piecesAfterCons]
    split
    · exact ⟨[] :: left, front, back, right, by rw [first]; rfl, second, by rw [whole]; rfl⟩
    · cases left with
      | nil =>
        obtain ⟨head, tail⟩ := List.cons.inj first
        obtain ⟨longer, others⟩ := List.cons.inj whole
        exact ⟨[], c :: front, back, right, by rw [head, tail]; rfl, second, by rw [longer, others]; rfl⟩
      | cons p left =>
        obtain ⟨head, tail⟩ := List.cons.inj first
        obtain ⟨longer, others⟩ := List.cons.inj whole
        exact ⟨(c :: p) :: left, front, back, right, by rw [head, tail]; rfl, second, by rw [longer, others]; rfl⟩

theorem cutOrInside (before after : List Char) :
    (endsHash false before = false → CutAt (pieces (before ++ '>' :: after)) before after) ∧
      (endsHash false before = true → InsideAt (pieces (before ++ '>' :: after)) before after) := by
  constructor
  · intro ends
    exact ⟨pieces before, pieces after, List.cons_ne_nil _ _, List.cons_ne_nil _ _, piecesBetween ends,
      piecesJoined before, piecesJoined after⟩
  · intro ends
    obtain ⟨left, front, back, right, first, second, whole⟩ := piecesWithin ends after
    refine ⟨left, front, back, right, whole, ?_, ?_⟩
    · rw [← first]
      exact piecesJoined before
    · rw [← second]
      exact piecesJoined after

theorem insideIff : InsideAt (pieces (before ++ '>' :: after)) before after ↔ ∃ rest, before = rest ++ ['#'] := by
  obtain ⟨cut, inside⟩ := cutOrInside before after
  rw [← endsHashIff]
  cases ends : endsHash false before with
  | true => simpa using inside ends
  | false => simpa using fun within => notBoth (cut ends) within

theorem cutIff : CutAt (pieces (before ++ '>' :: after)) before after ↔ ¬ ∃ rest, before = rest ++ ['#'] := by
  obtain ⟨cut, inside⟩ := cutOrInside before after
  rw [← endsHashIff]
  cases ends : endsHash false before with
  | true => simpa using fun between => notBoth between (inside ends)
  | false => simpa using cut ends

def separatesAfter (afterHash : Bool) (cs : List Char) : Nat → Bool
  | 0 => cs[0]? == some '>' && !afterHash
  | n + 1 => cs[n + 1]? == some '>' && cs[n]? != some '#'

theorem separatesAfterCons (c : Char) (rest : List Char) :
    (separatesAfter afterHash (c :: rest) ∘ Nat.succ) = separatesAfter (c == '#') rest := by
  funext n
  cases n with
  | zero => simp [separatesAfter, bne]
  | succ n => simp [separatesAfter]

theorem cutPiecesCount (afterHash : Bool) (cs : List Char) :
    (cutPieces afterHash cs).2.length = (List.range cs.length).countP (separatesAfter afterHash cs) := by
  induction cs generalizing afterHash with
  | nil => rfl
  | cons c rest ih =>
    have first : separatesAfter afterHash (c :: rest) 0 = (c == '>' && !afterHash) := by simp [separatesAfter]
    rw [List.length_cons, List.range_succ_eq_map, List.countP_cons, List.countP_map, separatesAfterCons, ← ih, first]
    simp only [cutPieces]
    split <;> rfl

theorem piecesCount (cs : List Char) : (pieces cs).length = (List.range cs.length).countP (separates cs) + 1 := by
  have same : separates cs = separatesAfter false cs := by
    funext n
    cases n with
    | zero => simp [separates, separatesAfter]
    | succ n => rfl
  rw [pieces, List.length_cons, cutPiecesCount, same]

end Cutting

section Reading

def readPiece (piece : List Char) : Except ParseError Step := parseSegment (String.ofList (trim piece))

inductive Reported (path : String) : ParseError → ParseError → Prop
  | malformed (segment : String) (reason : Malformation) :
    Reported path (.malformed segment reason) (.malformed path reason)
  | invalidRegex (pattern : String) (cause : Regex.SyntaxError) :
    Reported path (.invalidRegex pattern cause) (.invalidRegex pattern cause)
  | allWithIndex (segment : String) : Reported path (.allWithIndex segment) (.allWithIndex segment)

variable {α β ε : Type} {path : String} {e cause : ParseError}

theorem reportedWithin : Reported path cause e ↔ e = cause.within path := by
  constructor
  · rintro (_ | _ | _) <;> rfl
  · rintro rfl
    cases cause with
    | malformed segment reason => exact .malformed segment reason
    | invalidRegex pattern cause => exact .invalidRegex pattern cause
    | allWithIndex segment => exact .allWithIndex segment

theorem mapMFails {f : α → Except ε β} {xs : List α} {e : ε} : xs.mapM f = .error e ↔
    ∃ front x back, xs = front ++ x :: back ∧ (∀ y ∈ front, ∃ z, f y = .ok z) ∧ f x = .error e := by
  induction xs with
  | nil => simp [pure, Except.pure]
  | cons x xs ih =>
    rw [List.mapM_cons]
    constructor
    · intro fails
      cases head : f x with
      | error other =>
        simp only [head, bind, Except.bind, Except.error.injEq] at fails
        exact ⟨[], x, xs, rfl, by simp, by rw [head, fails]⟩
      | ok y =>
        cases tail : xs.mapM f with
        | ok ys => simp [head, tail, bind, Except.bind, pure, Except.pure] at fails
        | error other =>
          simp only [head, tail, bind, Except.bind, Except.error.injEq] at fails
          obtain ⟨front, z, back, rfl, before, here⟩ := ih.mp (fails ▸ tail)
          exact ⟨x :: front, z, back, rfl, List.forall_mem_cons.mpr ⟨⟨y, head⟩, before⟩, here⟩
    · rintro ⟨front, z, back, same, before, here⟩
      cases front with
      | nil =>
        obtain ⟨rfl, rfl⟩ := List.cons.inj same
        simp [here, bind, Except.bind]
      | cons w front =>
        obtain ⟨rfl, tail⟩ := List.cons.inj same
        obtain ⟨⟨y, head⟩, before⟩ := List.forall_mem_cons.mp before
        rw [head, ih.mpr ⟨front, z, back, tail, before, here⟩]
        rfl

theorem parseBlank (blank : Blank path.toList) : parse path = .error (.malformed path .emptyPath) :=
  if_pos (List.all_eq_true.mpr blank)

theorem parseFails (plain : ¬ Blank path.toList) : parse path = .error e ↔
    ∃ front piece back cause, pieces path.toList = front ++ piece :: back ∧
      (∀ q ∈ front, ∃ s, readPiece q = .ok s) ∧ readPiece piece = .error cause ∧ Reported path cause e := by
  have all : ¬ path.toList.all Unicode.isBlank = true := fun all => plain (List.all_eq_true.mp all)
  have kept (piece : List Char) :
      (∃ s, (readPiece piece).mapError (·.within path) = .ok s) ↔ ∃ s, readPiece piece = .ok s := by
    cases readPiece piece <;> simp [Except.mapError]
  have fails (piece : List Char) : (readPiece piece).mapError (·.within path) = .error e ↔
      ∃ cause, readPiece piece = .error cause ∧ Reported path cause e := by
    simp only [reportedWithin]
    cases readPiece piece <;> simp [Except.mapError, eq_comm]
  rw [parse, if_neg all]
  change (pieces path.toList).mapM (fun piece => (readPiece piece).mapError (·.within path)) = .error e ↔ _
  rw [mapMFails]
  simp only [kept, fails]
  grind

theorem piecesReadable :
    (∃ steps, List.Forall₂ (fun piece s => readPiece piece = .ok s) (pieces path.toList) steps) ↔
      ∀ piece ∈ pieces path.toList, ∃ s, readPiece piece = .ok s := by
  refine ⟨fun ⟨steps, reads⟩ piece inside => ?_, forall₂Exists⟩
  have flipped : List.Forall₂ (fun s piece => readPiece piece = .ok s) steps (pieces path.toList) := reads.flip
  obtain ⟨s, _, read⟩ := forall₂Member flipped inside
  exact ⟨s, read⟩

/- Nothing of a path is lost in its pieces, they end at the separators only, and they are read in order up to the first
one that is wrong. A blank path has an error of its own. -/
theorem pathSeparated (path : String) :
    joined (pieces path.toList) = path.toList ∧
    (∀ before after, path.toList = before ++ '>' :: after →
      (InsideAt (pieces path.toList) before after ↔ ∃ rest, before = rest ++ ['#']) ∧
      (CutAt (pieces path.toList) before after ↔ ¬ ∃ rest, before = rest ++ ['#'])) ∧
    (pieces path.toList).length = (List.range path.toList.length).countP (separates path.toList) + 1 ∧
    ((∃ steps, parse path = .ok steps) ↔
      ¬ Blank path.toList ∧ ∀ piece ∈ pieces path.toList, ∃ s, readPiece piece = .ok s) ∧
    (∀ steps, parse path = .ok steps →
      List.Forall₂ (fun piece s => readPiece piece = .ok s) (pieces path.toList) steps) ∧
    (Blank path.toList → parse path = .error (.malformed path .emptyPath)) ∧
    (¬ Blank path.toList → ∀ e, parse path = .error e ↔
      ∃ front piece back cause, pieces path.toList = front ++ piece :: back ∧
        (∀ q ∈ front, ∃ s, readPiece q = .ok s) ∧ readPiece piece = .error cause ∧ Reported path cause e) := by
  refine ⟨piecesJoined _, fun before after same => ?_, piecesCount _, ?_, fun steps read => (parseOk.mp read).2,
    parseBlank, fun plain e => parseFails plain⟩
  · rw [same]
    exact ⟨insideIff, cutIff⟩
  · rw [← piecesReadable, ← exists_and_left]
    exact exists_congr fun steps => parseOk

def untitledPath : String := "list > #>2 of items > #title > >"

theorem pathSeparatedUntitled :
    InsideAt (pieces untitledPath.toList) "list > #".toList "2 of items > #title > >".toList ∧
    (pieces untitledPath.toList).length = 5 ∧
    parse untitledPath = .error (.malformed untitledPath (.badModifier "#title")) := by
  obtain ⟨_, places, count, _, _, _, fails⟩ := pathSeparated untitledPath
  refine ⟨(places _ _ (by decide)).1.mpr ⟨"list > ".toList, by decide⟩, count.trans (by decide), ?_⟩
  have plain : ¬ Blank untitledPath.toList := fun blank => absurd (blank 'l' (by decide)) (by decide)
  have list : readPiece "list ".toList = .ok (.named "list") := by decide +kernel
  have items : readPiece " #>2 of items ".toList = .ok ⟨.named "items", some (.index (.above 2))⟩ := by decide +kernel
  refine (fails plain _).mpr ⟨["list ".toList, " #>2 of items ".toList], " #title ".toList, [" ".toList, []],
    .malformed "#title" (.badModifier "#title"), by decide, ?_, by decide +kernel, .malformed _ _⟩
  simp only [List.forall_mem_cons]
  exact ⟨⟨_, list⟩, ⟨_, items⟩, by simp⟩

theorem emptyPathReason :
    pieces "".toList = [[]] ∧ readPiece [] = .error (.malformed "" .emptySegment) ∧
      parse "" = .error (.malformed "" .emptyPath) ∧
      Malformation.emptyPath.message ≠ Malformation.emptySegment.message := by
  exact ⟨rfl, rfl, rfl, by decide⟩

end Reading

end LocatorPath
