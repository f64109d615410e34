import LocatorPath.Proofs.Path.RoundTrip

/-! Paths that were read, written and read again. What is lost in between are blanks and leading
zeros. No ` in ` moves by that and no index appears, but a blank other than a space can have kept
an alias that starts with `in ` away from the separator. -/
namespace LocatorPath
open Unicode (isBlank trim Blank Trimmed)

theorem partUnbroken {front middle back : List Char} (whole : Unbroken (front ++ middle ++ back))
    (ends : endsHash false front = false) : Unbroken middle := by
  rw [unbrokenIff, unbrokenAppend, unbrokenAppend, ends] at whole
  exact unbrokenIff.mpr whole.1.2

theorem blankEnds {cs : List Char} (blank : Blank cs) : endsHash false cs = false := by
  rw [Bool.eq_false_iff]
  intro hash
  obtain ⟨rest, rfl⟩ := (endsHashIff cs).mp hash
  have mark := blank '#' (by simp)
  contradiction

theorem trimUnbroken {cs : List Char} (whole : Unbroken cs) : Unbroken (trim cs) := by
  obtain ⟨front, back, cut, before, _⟩ := Unicode.trimCuts cs
  exact partUnbroken (cut ▸ whole) (blankEnds before)

theorem trimSubset (cs : List Char) : trim cs ⊆ cs := by
  obtain ⟨front, back, cut, _, _⟩ := Unicode.trimCuts cs
  intro c inside
  rw [cut]
  simp [inside]

theorem nameKept {cs : List Char} (trimmed : Trimmed cs) (nonempty : cs ≠ [])
    (other : cs ≠ chars "this") : String.ofList cs ≠ "" ∧
      trim (String.ofList cs).toList = (String.ofList cs).toList ∧ String.ofList cs ≠ "this" := by
  have same := String.toList_ofList (l := cs)
  refine ⟨fun none => nonempty ?_, ?_, fun this => other ?_⟩
  · rw [← same, none]; rfl
  · rw [same]
    exact Unicode.trimSelf.mpr trimmed
  · rw [← same, this]

theorem TargetText.kept {raw : List Char} {n : String} (text : TargetText raw (.named n)) :
    n.toList = trim raw ∧ n ≠ "" ∧ trim n.toList = n.toList ∧ n ≠ "this" := by
  cases text with
  | named nonempty other =>
    exact ⟨String.toList_ofList, nameKept (Unicode.trimTrimmed raw) nonempty other⟩

theorem TargetText.unbroken {raw : List Char} {t : Target} (text : TargetText raw t)
    (whole : Unbroken raw) : Unbroken t.written := by
  cases t with
  | this => exact unbrokenIff.mpr (unbrokenFree (by decide))
  | named n =>
    rw [Target.written, text.kept.1]
    exact trimUnbroken whole

theorem TargetText.line {raw : List Char} {n : String} (text : TargetText raw (.named n))
    (line : '\n' ∉ raw) : '\n' ∉ n.toList := by
  rw [text.kept.1]
  exact fun inside => line (trimSubset raw inside)

theorem FilterText.same {kind : FilterKind} {value : List Char} {f : TextFilter}
    (text : FilterText kind value f) : f.kind = kind ∧ f.value = value := by
  cases text with
  | contains => exact ⟨rfl, String.toList_ofList⟩
  | equals => exact ⟨rfl, String.toList_ofList⟩
  | pattern source => exact ⟨rfl, by rw [TextFilter.value, source, String.toList_ofList]⟩

theorem indexTokenUnbroken {index : WrittenIndex} {token : List Char}
    (text : IndexText index token) : UnbrokenAfter true token := by
  have runs {afterHash : Bool} {digits : List Char} (run : DigitRun digits) :
      UnbrokenAfter afterHash digits := unbrokenFree (run.avoids (by decide))
  cases text with
  | first => exact unbrokenFree (by decide)
  | last => exact unbrokenFree (by decide)
  | nth run => exact runs run
  | between lowRun highRun =>
    exact unbrokenAppend.mpr ⟨runs lowRun,
      unbrokenCons.mpr ⟨fun same => absurd same (by decide), runs highRun⟩⟩
  | above run => exact unbrokenCons.mpr ⟨fun _ => rfl, runs run⟩
  | below run => exact unbrokenCons.mpr ⟨fun _ => rfl, runs run⟩

theorem indexUnbroken (spec : IndexSpec) {target : List Char} (whole : Unbroken target) :
    Unbroken (spec.written ++ chars " of " ++ target) := by
  obtain ⟨token, text, written⟩ := indexWritten spec
  have mark : UnbrokenAfter false ('#' :: token) :=
    unbrokenCons.mpr ⟨by decide, indexTokenUnbroken text⟩
  rw [written, unbrokenIff, unbrokenAppend, unbrokenAppend, endsHashAppend]
  exact ⟨⟨mark, unbrokenFree (by decide)⟩, unbrokenIff.mp whole⟩

theorem lastCutFree {kind : FilterKind} {body value raw : List Char}
    (cut : LastCut kind.closing body value raw) : ¬ kind.closing <:+: trim raw := by
  rintro ⟨y, z, inside⟩
  obtain ⟨front, back, around, _, _⟩ := Unicode.trimCuts raw
  have ends : ∃ rest, kind.closing = rest ++ [' '] := by
    cases kind
    · exact ⟨chars " in", rfl⟩
    · exact ⟨chars " in", rfl⟩
    · exact ⟨chars "/ in", rfl⟩
  obtain ⟨rest, closing⟩ := ends
  by_cases none : z = []
  · have last := (Unicode.trimTrimmed raw).2 ' ' (by rw [← inside, none, closing]; simp)
    contradiction
  · have later : Cut kind.closing body (value ++ kind.closing ++ front ++ y) (z ++ back) := by
      refine ⟨?_, by simp [cut.front], by simp [none]⟩
      rw [cut.text, around, ← inside]
      simp
    have short := cut.last _ _ later
    rw [closing] at short
    simp only [List.length_append, List.length_singleton] at short
    omega

theorem indexKept {value old new : List Char} (line : '\n' ∉ value) (newLine : LineText new)
    (shape : HasIndex ('#' :: (value ++ chars " in " ++ old))) :
    HasIndex ('#' :: (value ++ chars " in " ++ new)) := by
  obtain ⟨index, target, ⟨token, text, same⟩, _⟩ := shape
  have same := (List.cons.inj same).2
  rw [List.append_assoc, List.append_assoc] at same
  have noSpace : ' ' ∉ token := fun inside => absurd (text.noSpace _ inside) (by decide)
  rcases List.append_eq_append_iff.mp same with ⟨y, rfl, rest⟩ | ⟨y, rfl, rest⟩
  · cases y with
    | nil => simp [chars] at rest
    | cons c y =>
      -- the index would reach into the separator, which begins with a space
      simp only [chars, String.reduceToList, List.cons_append, List.cons.injEq] at rest
      rw [← rest.1] at noSpace
      simp at noSpace
  · have moved (tail : List Char) (tailLine : LineText tail)
        (whole : y ++ (chars " in " ++ new) = chars " of " ++ tail) :
        HasIndex ('#' :: (token ++ y ++ chars " in " ++ new)) :=
      ⟨index, tail, ⟨⟨token, text, by
        rw [List.append_assoc, List.append_assoc, whole, List.append_assoc]⟩, tailLine⟩⟩
    -- only with its last space can ` of ` take part in the separator
    match y with
    | [] => simp [chars] at rest
    | [_] => simp [chars] at rest
    | [_, _] => simp [chars] at rest
    | [_, _, _] =>
      simp only [chars, String.reduceToList, List.cons_append, List.nil_append, List.cons.injEq] at rest
      obtain ⟨rfl, rfl, rfl, _⟩ := rest
      exact moved (chars "in " ++ new) ⟨by simp [chars], by simp [chars, newLine.2]⟩ rfl
    | _ :: _ :: _ :: _ :: more =>
      simp only [chars, String.reduceToList, List.cons_append, List.nil_append, List.cons.injEq] at rest
      obtain ⟨rfl, rfl, rfl, rfl, _⟩ := rest
      simp only [List.mem_append, List.mem_cons, not_or] at line
      refine moved (more ++ (chars " in " ++ new)) ⟨by simp [chars], ?_⟩ rfl
      simp [chars, newLine.2, line]

theorem readIndexSettled {t : Target} {raw : List Char} {spec : IndexSpec}
    (text : TargetText raw t) (line : '\n' ∉ raw) (whole : Unbroken raw) :
    Settled ⟨t, some (.index spec)⟩ where
  name n m same := by
    cases same
    exact text.kept.2
  unbroken := indexUnbroken spec (text.unbroken whole)
  line n m same := by
    cases same
    exact text.line line
  value t f c same := by cases same
  cut n f c same := by cases same
  noIndex t v c same := by cases same
  plain n same := by cases same

theorem readTextSettled {cs value raw : List Char} {c : Cardinality} {kind : FilterKind}
    {f : TextFilter} {t : Target} (noIndex : ¬ HasIndex cs) (noAllIndex : ¬ AfterAll HasIndex cs)
    (shape : TextShape cs c kind value raw) (filterText : FilterText kind value f)
    (text : TargetText raw t) (whole : Unbroken cs) : Settled ⟨t, some (.text f c)⟩ := by
  obtain ⟨rfl, rfl⟩ := filterText.same
  obtain ⟨⟨body, rfl, cut⟩, line⟩ := shape
  have split : c.written ++ f.kind.opening :: body =
      (c.written ++ f.kind.opening :: (f.value ++ f.kind.closing)) ++ raw := by
    rw [cut.text]
    simp
  -- a separator ends in a space, so what the alias begins with follows no `#`
  have ends : endsHash false (c.written ++ f.kind.opening :: (f.value ++ f.kind.closing)) = false := by
    have last (rest : List Char) : endsHash false (rest ++ f.kind.closing) = false := by
      rw [endsHashAppend]
      cases f.kind <;> rfl
    simpa using last (c.written ++ f.kind.opening :: f.value)
  rw [split] at whole line
  have rawWhole : Unbroken raw := partUnbroken (by rwa [List.append_nil]) ends
  have front := (unbrokenAppend.mp (unbrokenIff.mp whole)).1
  simp only [List.mem_append, List.mem_cons, not_or] at line
  obtain ⟨⟨_, _, valueLine, _⟩, rawLine⟩ := line
  exact {
    name := fun n m same => by
      cases same
      exact text.kept.2
    unbroken := by
      have written : (Step.mk t (some (.text f c))).written =
          (c.written ++ f.kind.opening :: (f.value ++ f.kind.closing)) ++ t.written := by
        rw [filterStepWritten]
        simp
      rw [written, unbrokenIff, unbrokenAppend, ends]
      exact ⟨front, unbrokenIff.mp (text.unbroken rawWhole)⟩
    line := fun n m same => by
      cases same
      exact text.line rawLine
    value := fun t g d same => by
      cases same
      exact ⟨cut.front, valueLine⟩
    cut := fun n g d same => by
      cases same
      rw [text.kept.1]
      exact lastCutFree cut
    noIndex := fun u v d same => by
      cases same
      rw [filterWritten]
      intro shape
      have again : HasIndex ('#' :: body) := by
        rw [cut.text]
        exact indexKept valueLine ⟨cut.back, rawLine⟩ shape
      cases c with
      | first => exact noIndex again
      | all => exact noAllIndex ⟨_, rfl, again⟩
    plain := fun n same => by cases same }

theorem readPlainSettled {cs : List Char} (nonempty : cs ≠ []) (other : cs ≠ chars "this")
    (start : ¬ HasSigil cs) (noAllIndex : ¬ AfterAll HasIndex cs) (noText : ¬ HasText cs)
    (trimmed : Trimmed cs) (whole : Unbroken cs) : Settled (.named (String.ofList cs)) where
  name n m same := by
    cases same
    exact nameKept trimmed nonempty other
  unbroken := by rwa [Step.named, Step.written, Target.written, String.toList_ofList]
  line n m same := by cases same
  value t f c same := by cases same
  cut n f c same := by cases same
  noIndex t v c same := by cases same
  plain n same := by
    cases same
    rw [String.toList_ofList]
    refine ⟨start, noAllIndex, ?_⟩
    -- a filter after `all ` would have been read as one, perhaps cut at another place
    rintro ⟨rest, rfl, kind, value, target, ⟨body, rfl, cut⟩, line⟩
    obtain ⟨⟨v, raw⟩, found⟩ := cutLastFinds cut
    refine noText ⟨.all, kind, v, raw, ⟨body, rfl, cutLastSound found⟩, ?_⟩
    simpa [chars] using line

theorem readSettled {cs : List Char} {s : Step} (reads : SegmentReads cs (.ok s))
    (trimmed : Trimmed cs) (whole : Unbroken cs) : Settled s := by
  cases reads with
  | this =>
    exact ⟨nofun, whole, nofun, nofun, nofun, nofun, nofun⟩
  | @index cs index raw spec t shape value text =>
    obtain ⟨⟨token, _, rfl⟩, line⟩ := shape
    have ends : endsHash false ('#' :: (token ++ chars " of ")) = false := by
      rw [← List.cons_append, endsHashAppend]
      rfl
    have part : Unbroken (('#' :: (token ++ chars " of ")) ++ raw ++ []) := by
      rwa [List.append_nil]
    exact readIndexSettled text line.2 (partUnbroken part ends)
  | text noIndex noAllIndex shape filterText text =>
    exact readTextSettled noIndex noAllIndex shape filterText text whole
  | named nonempty other start noAllIndex noText =>
    exact readPlainSettled nonempty other start noAllIndex noText trimmed whole

/- With no other blank than the space, an alias that starts with `in ` always has a space before it,
and the last cut is behind that space. -/
theorem lastCutSpaces {body value raw : List Char} (cut : LastCut (chars " in ") body value raw)
    (spaces : ∀ c ∈ raw, isBlank c = true → c = ' ') : ¬ chars "in " <+: trim raw := by
  rintro ⟨rest, start⟩
  obtain ⟨front, back, around, before, _⟩ := Unicode.trimCuts raw
  have nonempty : rest ≠ [] := by
    rintro rfl
    have last := (Unicode.trimTrimmed raw).2 ' ' (by rw [← start]; rfl)
    contradiction
  have later : ∃ more, more ≠ [] ∧ Cut (chars " in ") body (value ++ more) (rest ++ back) := by
    cases front using List.reverseRecOn with
    | nil =>
      refine ⟨chars " in", by decide, ⟨?_, by simp [chars], by simp [nonempty]⟩⟩
      rw [cut.text, around, ← start]
      simp [chars]
    | append_singleton front c =>
      have space : c = ' ' := spaces c (by rw [around]; simp) (before c (by simp))
      refine ⟨chars " in " ++ front, by simp [chars], ⟨?_, by simp [chars], by simp [nonempty]⟩⟩
      rw [cut.text, around, ← start, space]
      simp [chars]
  obtain ⟨more, some, later⟩ := later
  have short := cut.last _ _ later
  rw [List.length_append] at short
  have positive := List.length_pos_iff.mpr some
  omega

theorem readSteady {cs : List Char} {s : Step} (reads : SegmentReads cs (.ok s))
    (spaces : ∀ c ∈ cs, isBlank c = true → c = ' ') : ¬ Slips s := by
  rintro ⟨n, f, c, rfl, other, start⟩
  cases reads with
  | text noIndex noAllIndex shape filterText text =>
    obtain ⟨rfl, rfl⟩ := filterText.same
    obtain ⟨⟨body, rfl, cut⟩, _⟩ := shape
    have closing : f.kind.closing = chars " in " := by
      cases f with
      | contains => rfl
      | equals => rfl
      | pattern => contradiction
    rw [closing] at cut
    rw [text.kept.1] at start
    refine lastCutSpaces cut (fun d inside => spaces d ?_) start
    rw [cut.text]
    simp [inside]

theorem slipReads {s : Step} (settled : Settled s) (slips : Slips s) :
    ∃ again, SegmentReads s.written (.ok again) ∧ again ≠ s := by
  obtain ⟨n, f, c, rfl, other, rest, start⟩ := slips
  have filter := settled.filter
  have trimmed : Trimmed n.toList := settled.target.2.1
  have closing : f.kind.closing = chars " in " := by
    cases f with
    | contains => rfl
    | equals => rfl
    | pattern => contradiction
  have nonempty : rest ≠ [] := by
    rintro rfl
    have last := trimmed.2 ' ' (by rw [← start]; rfl)
    contradiction
  -- a cut further to the right gives the first letters of the alias to the value
  have early : Cut f.kind.closing (f.value ++ f.kind.closing ++ n.toList)
      (f.value ++ chars " in") rest := by
    refine ⟨?_, by simp [chars], nonempty⟩
    rw [closing, ← start]
    simp [chars]
  obtain ⟨⟨value, raw⟩, found⟩ := cutLastFinds early
  have cut := cutLastSound found
  have longer := cut.last _ _ early
  have ends : raw.getLast? = n.toList.getLast? := by
    have whole := congrArg List.getLast? cut.text
    rw [List.getLast?_append_of_ne_nil _ cut.back,
      List.getLast?_append_of_ne_nil _ (by simp [← start, chars])] at whole
    exact whole.symm
  have kept : trim raw ≠ [] := by
    rw [ne_eq, Unicode.trimNone]
    intro blank
    have last := List.getLast?_eq_some_getLast cut.back
    have plain := trimmed.2 _ (ends ▸ last)
    rw [blank _ (List.getLast_mem cut.back)] at plain
    contradiction
  obtain ⟨t, text⟩ := (targetCases raw).resolve_right kept
  obtain ⟨g, filterText⟩ := (filterCases f.kind value).resolve_right fun bad => other bad.1
  refine ⟨⟨t, some (.text g c)⟩, .text filter.noIndex filter.noAllIndex
    ⟨⟨_, filter.text, cut⟩, filter.line⟩ filterText text, fun same => ?_⟩
  cases same
  rw [filterText.same.2, List.length_append] at longer
  have positive : 0 < (chars " in").length := by decide
  omega

theorem parseReads {path : String} {steps : List Step} (read : parse path = .ok steps) :
    steps ≠ [] ∧ ∀ s ∈ steps, ∃ piece ∈ pieces path.toList, SegmentReads (trim piece) (.ok s) := by
  obtain ⟨_, all⟩ := parseOk.mp read
  refine ⟨fun none => ?_, fun s inside => ?_⟩
  · rw [none] at all
    cases List.forall₂_nil_right_iff.mp all
  · obtain ⟨piece, member, same⟩ := forall₂Member all inside
    have reads := parseSegmentSound (String.ofList (trim piece))
    rw [same, String.toList_ofList] at reads
    exact ⟨piece, member, reads⟩

theorem parseSettled {path : String} {steps : List Step} (read : parse path = .ok steps) :
    ∀ s ∈ steps, Settled s := by
  intro s inside
  obtain ⟨piece, member, reads⟩ := (parseReads read).2 s inside
  exact readSettled reads (Unicode.trimTrimmed piece) (trimUnbroken (piecesUnbroken member))

theorem parseSteady {path : String} {steps : List Step} (read : parse path = .ok steps)
    (spaces : ∀ c ∈ path.toList, isBlank c = true → c = ' ') : ∀ s ∈ steps, ¬ Slips s := by
  intro s inside
  obtain ⟨piece, member, reads⟩ := (parseReads read).2 s inside
  exact readSteady reads fun c kept => spaces c (piecesSubset member (trimSubset piece kept))

theorem settledReads {s : Step} (settled : Settled s) :
    ∃ again, parseSegment s.render = .ok again ∧ (again = s ↔ ¬ Slips s) := by
  by_cases slips : Slips s
  · obtain ⟨again, reads, other⟩ := slipReads settled slips
    exact ⟨again, parseSegmentComplete reads, iff_of_false other (not_not.mpr slips)⟩
  · exact ⟨s, renderReads settled slips, iff_of_true rfl slips⟩

/- What was read can always be read again, and gives the same steps unless one of them slips. -/
theorem parseAgain {path : String} {steps : List Step} (read : parse path = .ok steps) :
    (∃ again, parse (renderPath steps) = .ok again) ∧
      (parse (renderPath steps) = .ok steps ↔ ∀ s ∈ steps, ¬ Slips s) ∧
      ((∀ c ∈ path.toList, isBlank c = true → c = ' ') → parse (renderPath steps) = .ok steps) := by
  have nonempty := (parseReads read).1
  have settled := parseSettled read
  have rendered {again : List Step} : parse (renderPath steps) = .ok again ↔
      List.Forall₂ (fun s t => parseSegment s.render = .ok t) steps again :=
    parseRendered nonempty fun s inside => (settled s inside).alone
  have same : parse (renderPath steps) = .ok steps ↔ ∀ s ∈ steps, ¬ Slips s := by
    rw [rendered, List.forall₂_same]
    refine forall₂_congr fun s inside => ?_
    obtain ⟨again, reads, steady⟩ := settledReads (settled s inside)
    rw [reads, Except.ok.injEq]
    exact steady
  refine ⟨?_, same, fun spaces => same.mpr (parseSteady read spaces)⟩
  obtain ⟨again, all⟩ := forall₂Exists fun s inside =>
    (settledReads (settled s inside)).imp fun _ reads => reads.1
  exact ⟨again, rendered.mpr all⟩

theorem parseAgainTab :
    parse "#v in \tin x" = .ok [⟨.named "in x", some (.text (.contains "v") .first)⟩] ∧
      parse (renderPath [⟨.named "in x", some (.text (.contains "v") .first)⟩]) ≠
        .ok [⟨.named "in x", some (.text (.contains "v") .first)⟩] := by
  have read : parse "#v in \tin x" =
      .ok [⟨.named "in x", some (.text (.contains "v") .first)⟩] := by decide +kernel
  refine ⟨read, fun same => ?_⟩
  have steady := (parseAgain read).2.1.mp same _ List.mem_cons_self
  exact steady ⟨"in x", .contains "v", .first, rfl, by decide, by decide⟩

end LocatorPath
