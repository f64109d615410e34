import Mathlib.Data.List.Basic
import LocatorPath.WebDriver.Exchange
import LocatorPath.Proofs.WebDriver.Tag

/-! What is sent for a command tells which command it is. The wrapper of a script sets the attribute that the
lookup selects and that the last script removes, to a text that starts as the lookup asks for, and answers with
the fields of a summary. The source stands in it as it was given. -/
namespace LocatorPath

namespace Tag

theorem taggingWritten : ∃ opening between ending closing, ∀ source mark,
    taggingScript source mark = opening ++ source ++ between ++ "node.setAttribute('" ++ attributeName ++
      "', '" ++ start mark ++ "' + i)" ++ ending ++ "return \x7b list: isList, count: nodes.length \x7d" ++
      closing := by
  refine ⟨"\n        const result = (function () \x7b\n",
    "\n        \x7d).apply(null, arguments);\n" ++
    "        const isList = Array.isArray(result)\n" ++
    "            || result instanceof NodeList\n" ++
    "            || result instanceof HTMLCollection;\n" ++
    "        const nodes = result == null ? [] : (isList ? Array.from(result) : [result]);\n" ++
    "        nodes.forEach(function (node, i) \x7b ",
    "; \x7d);\n" ++ "        ", ";\n" ++ "        ", fun source mark => ?_⟩
  have setting : "        nodes.forEach(function (node, i) \x7b node.setAttribute('" =
    "        nodes.forEach(function (node, i) \x7b " ++ "node.setAttribute('" := rfl
  have tagged : "-' + i); \x7d);\n" = "-" ++ ("' + i)" ++ "; \x7d);\n") := rfl
  have summed : "        return \x7b list: isList, count: nodes.length \x7d;\n" =
    "        " ++ ("return \x7b list: isList, count: nodes.length \x7d" ++ ";\n") := rfl
  -- rewrite and no rw: its closing rfl would evaluate the texts
  unfold taggingScript start
  rewrite [setting, tagged, summed]
  simp only [String.append_assoc]

theorem untaggingWritten : ∃ opening between closing, ∀ mark,
    untaggingScript mark = opening ++ "document.querySelectorAll('" ++ selector mark ++ "')" ++ between ++
      "node.removeAttribute('" ++ attributeName ++ "')" ++ closing := by
  refine ⟨"", ".forEach(function (node) \x7b ", "; \x7d);", fun mark => ?_⟩
  have removing : "').forEach(function (node) \x7b node.removeAttribute('" =
    "')" ++ (".forEach(function (node) \x7b " ++ "node.removeAttribute('") := rfl
  have ending : "'); \x7d);" = "')" ++ "; \x7d);" := rfl
  unfold untaggingScript
  rewrite [removing, ending, String.empty_append]
  simp only [String.append_assoc]

@[simp] theorem markTextTold {m k : Mark} : markText m = markText k ↔ m = k := by
  refine ⟨fun same => markTextInj ?_, congrArg markText⟩
  simpa [markText, decimal] using congrArg String.toList same

@[simp] theorem selectorTold {m k : Mark} : selector (markText m) = selector (markText k) ↔ m = k := by
  simp [selector, start]

@[simp] theorem untaggingTold {m k : Mark} :
    untaggingScript (markText m) = untaggingScript (markText k) ↔ m = k := by
  obtain ⟨_, _, _, written⟩ := untaggingWritten
  simp [written]

/- A source may have quotes of its own, so the mark is looked for from the end. -/
@[simp] theorem taggingTold {source other : String} {m k : Mark} :
    taggingScript source (markText m) = taggingScript other (markText k) ↔ source = other ∧ m = k := by
  refine ⟨fun same => ?_, by rintro ⟨rfl, rfl⟩; rfl⟩
  obtain ⟨opening, between, ending, closing, written⟩ := taggingWritten
  have cut (s : String) (m : Mark) : (taggingScript s (markText m)).toList =
      (opening ++ s ++ between ++ "node.setAttribute('" ++ attributeName ++ "', ").toList ++
        '\'' :: decimal m.toNat ++ ("-" ++ "' + i)" ++ ending ++
          "return \x7b list: isList, count: nodes.length \x7d" ++ closing).toList := by
    simp [written, start, markText, decimal]
  have plain (m : Mark) : '\'' ∉ decimal m.toNat := fun inside => by
    simpa using decimalPlain m.toNat '\'' inside
  have same := congrArg String.toList same
  rw [cut, cut, List.append_left_inj] at same
  obtain ⟨front, marks⟩ := separatorLast (plain m) (plain k) same
  exact ⟨String.toList_inj.mp (by simpa using front), markTextInj marks⟩

theorem endsApart {a b s t : String} {c d : Char} (left : s.toList.getLast? = some c)
    (right : t.toList.getLast? = some d) (apart : c ≠ d) : a ++ s ≠ b ++ t := fun same => by
  have ends := congrArg (fun s => s.toList.getLast?) same
  simp only [String.toList_append, List.getLast?_append, left, right, Option.some_or,
    Option.some.injEq] at ends
  exact apart ends

theorem taggingNotUntagging {source mark other : String} :
    taggingScript source mark ≠ untaggingScript other :=
  endsApart (c := ' ') (d := ';') rfl rfl (by decide)

end Tag

namespace Exchange

@[simp] theorem usingTold {u v : Using} : u.name = v.name ↔ u = v := by
  cases u <;> cases v <;> decide

theorem elementPathLong {a s t : String} (short : t.length < 9 + s.length) : "/element/" ++ a ++ s ≠ t := by
  rintro rfl
  have front : "/element/".length = 9 := rfl
  simp only [String.length_append] at short
  omega

theorem pagePathShort {a s t : String} (short : t.length < 9 + s.length) : t ≠ "/element/" ++ a ++ s :=
  (elementPathLong short).symm

theorem queriesTold (session : String) : Function.Injective (query session) := by
  intro c d same
  have oneOrAll (a b : String) : "/element/" ++ a ++ "/element" ≠ "/element/" ++ b ++ "/elements" :=
    Tag.endsApart (c := 't') (d := 's') rfl rfl (by decide)
  have textOrTag (a b : String) :
      "/element/" ++ a ++ "/text" ≠ "/element/" ++ b ++ ("/attribute/" ++ Tag.attributeName) :=
    Tag.endsApart (c := 't') (d := 's') rfl rfl (by decide)
  rcases c with _ | _ | _ | _ | _ | ⟨_ | _⟩ | _ | _ | _ | _ | _ <;>
    rcases d with _ | _ | _ | _ | _ | ⟨_ | _⟩ | _ | _ | _ | _ | _ <;>
    simp (disch := decide) [query, query.inSession, query.ofElement, locating, running, elementPathLong,
      pagePathShort, oneOrAll, (oneOrAll _ _).symm, textOrTag, (textOrTag _ _).symm,
      Tag.taggingNotUntagging, Tag.taggingNotUntagging.symm] at same ⊢ <;>
    exact same

end Exchange

end LocatorPath
