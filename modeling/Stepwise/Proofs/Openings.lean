import Mathlib.Data.List.TakeWhile
import Stepwise.Proofs.Lexemes

/-!
# How programs open

Lines are taken off the front of a text one after the other while the opening is looked for, and blank
ones are passed over. What comes of it can be told from the lines that are not blank: either the first of
them are the opening lines, or there is a first one that is not what was due, or there are too few of
them. And what is left is told by the last opening line: it is all that comes after it.

## Main results

* `Token.exists_dropOpening`: what is left of the lines of a text that opens as it has to.
* `Token.dropOpening_of_mismatch`: the fault that is found in every other text.
* `Token.filter_lexLines`: the tokens further down than a line are the tokens of the lines after it.
* `Token.opening_is_exact`: all of this for whole texts.
-/

namespace Stepwise.Token

open Text (isBlankText)

/-! ## Section 1: Lines that are not blank -/

/-- The lines that are not blank. -/
def filled (lines : List (Nat × List Char)) : List (Nat × List Char) :=
  lines.filter fun line => !isBlankText line.2

variable {lines rest : List (Nat × List Char)} {line : Nat × List Char}

theorem filled_append (xs ys : List (Nat × List Char)) :
    filled (xs ++ ys) = filled xs ++ filled ys :=
  List.filter_append xs ys

theorem filled_cons (h : isBlankText line.2 = false) (rest : List (Nat × List Char)) :
    filled (line :: rest) = line :: filled rest := by
  simp [filled, h]

theorem filled_eq_nil (h : ∀ line ∈ lines, isBlankText line.2 = true) : filled lines = [] := by
  simpa [filled] using h

/-- The first line that is not blank, and the blank ones before it. -/
theorem exists_of_dropWhile_cons
    (h : (lines.dropWhile fun line => isBlankText line.2) = line :: rest) :
    ∃ blank, lines = blank ++ line :: rest ∧ (∀ line ∈ blank, isBlankText line.2 = true) ∧
      isBlankText line.2 = false := by
  refine ⟨lines.takeWhile fun line => isBlankText line.2, ?_, ?_, ?_⟩
  · rw [← h, List.takeWhile_append_dropWhile]
  · intro line hline
    have hblank := List.mem_takeWhile_imp hline
    exact hblank
  · have hhead := List.head?_dropWhile_not (fun line : Nat × List Char => isBlankText line.2) lines
    rw [h] at hhead
    simpa using hhead

/-- The first of the lines that are not blank is found, or there is none. -/
theorem filled_of_dropWhile_cons
    (h : (lines.dropWhile fun line => isBlankText line.2) = line :: rest) :
    filled lines = line :: filled rest := by
  obtain ⟨blank, rfl, hblank, hline⟩ := exists_of_dropWhile_cons h
  rw [filled_append, filled_eq_nil hblank, filled_cons hline, List.nil_append]

theorem filled_of_dropWhile_nil (h : (lines.dropWhile fun line => isBlankText line.2) = []) :
    filled lines = [] :=
  filled_eq_nil (List.dropWhile_eq_nil_iff.mp h)

/-! ## Section 2: What lines open with -/

/-- Lines begin with these texts, whatever blanks stand at their ends. -/
def OpenWith (texts : List String) (lines : List (Nat × List Char)) : Prop :=
  (lines.take texts.length).map (fun line => Text.trimEnd line.2) = texts.map String.toList

theorem openWith_nil (lines : List (Nat × List Char)) : OpenWith [] lines := by
  simp [OpenWith]

theorem openWith_cons {text : String} {texts : List String} :
    OpenWith (text :: texts) (line :: lines) ↔
      Text.trimEnd line.2 = text.toList ∧ OpenWith texts lines := by
  simp [OpenWith]

theorem not_openWith_cons_nil {text : String} {texts : List String} :
    ¬ OpenWith (text :: texts) [] := by
  simp [OpenWith]

/-- There are as many lines as they begin with. -/
theorem OpenWith.length_le {texts : List String} (h : OpenWith texts lines) :
    texts.length ≤ lines.length := by
  have hlength := congrArg List.length h
  simp only [List.length_map, List.length_take] at hlength
  omega

/-- There is a first text that the lines do not go on with: they begin with those before it, and the
next line is another one, or there is none. -/
structure Mismatch (texts met : List String) (due : String) (lines : List (Nat × List Char)) :
    Prop where
  due_follows : met ++ [due] <+: texts
  begins : OpenWith met lines
  differs : ∀ line ∈ lines[met.length]?, Text.trimEnd line.2 ≠ due.toList

/-- Lines begin with some texts, or there is a first one that they do not go on with. -/
theorem openWith_or_mismatch (texts : List String) (lines : List (Nat × List Char)) :
    OpenWith texts lines ∨ ∃ met due, Mismatch texts met due lines := by
  induction texts generalizing lines with
  | nil => exact .inl (openWith_nil lines)
  | cons text texts ih =>
    cases lines with
    | nil =>
      refine .inr ⟨[], text, ?_, openWith_nil [], ?_⟩
      · exact List.prefix_append [text] texts
      · rintro line ⟨⟩
    | cons line lines =>
      by_cases hline : Text.trimEnd line.2 = text.toList
      · rcases ih lines with hopen | ⟨met, due, hdue, hmet, hdiffers⟩
        · exact .inl (openWith_cons.mpr ⟨hline, hopen⟩)
        · refine .inr ⟨text :: met, due, ?_, openWith_cons.mpr ⟨hline, hmet⟩, hdiffers⟩
          exact List.cons_prefix_cons.mpr ⟨rfl, hdue⟩
      · refine .inr ⟨[], text, ?_, openWith_nil _, ?_⟩
        · exact List.prefix_append [text] texts
        · rintro line' ⟨⟩
          exact hline

namespace Mismatch

variable {texts met : List String} {due : String}

theorem of_line (hdue : met ++ [due] <+: texts) (hbegins : OpenWith met lines)
    (hline : lines[met.length]? = some line) (hdiffers : Text.trimEnd line.2 ≠ due.toList) :
    Mismatch texts met due lines := by
  refine ⟨hdue, hbegins, ?_⟩
  rw [hline]
  rintro line ⟨⟩
  exact hdiffers

theorem of_end (hdue : met ++ [due] <+: texts) (hbegins : OpenWith met lines)
    (hlength : lines.length = met.length) : Mismatch texts met due lines := by
  refine ⟨hdue, hbegins, ?_⟩
  rw [List.getElem?_eq_none (Nat.le_of_eq hlength)]
  rintro line ⟨⟩

end Mismatch

/-! ## Section 3: Taking the opening off -/

/-- The fault that another line stands where one was due, or that the text has ended there. -/
def missing (total : Nat) (due : String) : Option (Nat × List Char) → MissingOpening
  | none => ⟨due, none, total + 1⟩
  | some line => ⟨due, some (String.ofList line.2), line.1⟩

/-- Which of the two it is. -/
theorem Mismatch.missing_cases {texts met : List String} {due : String}
    (h : Mismatch texts met due lines) (total : Nat) :
    (∃ line, lines[met.length]? = some line ∧ Text.trimEnd line.2 ≠ due.toList ∧
      missing total due lines[met.length]? = ⟨due, some (String.ofList line.2), line.1⟩) ∨
    (lines.length = met.length ∧
      missing total due lines[met.length]? = ⟨due, none, total + 1⟩) := by
  cases hline : lines[met.length]? with
  | none =>
    have hle := List.getElem?_eq_none_iff.mp hline
    exact .inr ⟨Nat.le_antisymm hle h.begins.length_le, rfl⟩
  | some line => exact .inl ⟨line, rfl, h.differs line hline, rfl⟩

/-- The fault is found at the first line that is not what was due. -/
theorem dropOpening_of_mismatch {texts met : List String} {due : String}
    (h : Mismatch texts met due (filled lines)) (total : Nat) :
    dropOpening total texts lines = .error (missing total due (filled lines)[met.length]?) := by
  induction met generalizing texts lines with
  | nil =>
    obtain ⟨more, rfl⟩ := h.due_follows
    rw [List.nil_append, List.singleton_append, dropOpening]
    have hdiffers := h.differs
    split
    · next hdrop =>
      rw [filled_of_dropWhile_nil hdrop]
      rfl
    · next line rest hdrop =>
      rw [filled_of_dropWhile_cons hdrop] at hdiffers ⊢
      rw [if_neg (hdiffers line rfl)]
      rfl
  | cons text met ih =>
    obtain ⟨⟨more, rfl⟩, hmet, hdiffers⟩ := h
    rw [List.cons_append, List.cons_append, dropOpening]
    split
    · next hdrop =>
      rw [filled_of_dropWhile_nil hdrop] at hmet
      exact absurd hmet not_openWith_cons_nil
    · next line rest hdrop =>
      rw [filled_of_dropWhile_cons hdrop] at hmet hdiffers ⊢
      obtain ⟨hline, hmet⟩ := openWith_cons.mp hmet
      rw [if_pos hline]
      exact ih ⟨⟨more, rfl⟩, hmet, hdiffers⟩

/-- If the lines open with the texts, then the opening is taken off. It has in it as many lines that are
not blank as there are texts, and it ends in one of them. -/
theorem exists_dropOpening {texts : List String} (h : OpenWith texts (filled lines)) (total : Nat) :
    ∃ front rest, lines = front ++ rest ∧ dropOpening total texts lines = .ok rest ∧
      (filled front).length = texts.length ∧ ∀ line ∈ front.getLast?, isBlankText line.2 = false := by
  induction texts generalizing lines with
  | nil => exact ⟨[], lines, rfl, rfl, rfl, by simp⟩
  | cons text texts ih =>
    rw [dropOpening]
    split
    · next hdrop =>
      rw [filled_of_dropWhile_nil hdrop] at h
      exact absurd h not_openWith_cons_nil
    · next line more hdrop =>
      rw [filled_of_dropWhile_cons hdrop] at h
      obtain ⟨hline, h⟩ := openWith_cons.mp h
      obtain ⟨blank, rfl, hblank, hfilled⟩ := exists_of_dropWhile_cons hdrop
      obtain ⟨front, rest, rfl, hrest, hlength, hlast⟩ := ih h
      refine ⟨blank ++ line :: front, rest, by simp, ?_, ?_, ?_⟩
      · rw [if_pos hline, hrest]
      · rw [filled_append, filled_eq_nil hblank, filled_cons hfilled, List.nil_append,
          List.length_cons, hlength, List.length_cons]
      · -- The last line is that of the lines further down, if there are any.
        rw [List.getLast?_append, List.getLast?_cons, Option.some_or]
        rintro last ⟨⟩
        cases hfront : front.getLast? with
        | none => exact hfilled
        | some last => exact hlast last hfront

/-! ## Section 4: What comes after a line -/

/-- The tokens further down than a line are the tokens of the lines further down. -/
theorem filter_lexLines (number : Nat) (numbered : List (Nat × List Char)) :
    (lexLines numbered).filter (fun t => number < t.loc.line) =
      lexLines (numbered.filter fun line => number < line.1) := by
  induction numbered with
  | nil => rfl
  | cons line numbered ih =>
    -- All tokens of a line stand on it, so either all of them are kept or none is.
    have hline : ∀ t ∈ lexLine line.1 line.2, t.loc.line = line.1 :=
      fun t ht => (standsOn_of_mem_lexLine ht).line
    have hcons (more : List (Nat × List Char)) :
        lexLines (line :: more) = lexLine line.1 line.2 ++ lexLines more := rfl
    rw [hcons, List.filter_append, ih, List.filter_cons]
    by_cases hlt : number < line.1
    · rw [if_pos (decide_eq_true hlt), hcons]
      congr 1
      apply List.filter_eq_self.mpr
      intro t ht
      rw [hline t ht]
      exact decide_eq_true hlt
    · rw [if_neg (by simpa using hlt)]
      have hnone : (lexLine line.1 line.2).filter (fun t => number < t.loc.line) = [] := by
        apply List.filter_eq_nil_iff.mpr
        intro t ht
        rw [hline t ht]
        simpa using hlt
      rw [hnone, List.nil_append]

/-- If lines are numbered upwards, then those after a line have the greater numbers. -/
theorem filter_after {before after : List (Nat × List Char)}
    (h : (before ++ line :: after).Pairwise fun l m => l.1 < m.1) :
    ((before ++ line :: after).filter fun l => line.1 < l.1) = after := by
  obtain ⟨-, hafter, hbefore⟩ := List.pairwise_append.mp h
  obtain ⟨hafter, -⟩ := List.pairwise_cons.mp hafter
  rw [List.filter_append, List.filter_cons]
  have hnone : (before.filter fun l => line.1 < l.1) = [] := by
    apply List.filter_eq_nil_iff.mpr
    intro l hl
    have hlt := hbefore l hl line List.mem_cons_self
    simpa using Nat.le_of_lt hlt
  have hall : (after.filter fun l => line.1 < l.1) = after :=
    List.filter_eq_self.mpr fun l hl => decide_eq_true (hafter l hl)
  rw [hnone, hall]
  simp

/-! ## Section 5: Whole texts -/

/-- The lines of a text that are not blank, with their numbers. -/
def filledLines (text : String) : List (Nat × List Char) :=
  filled (Text.numberedLines text)

/-- The tokens of a text that opens as it has to: those after its third line that is not blank. -/
theorem exists_lexProgram {text : String} (h : OpenWith openingLines (filledLines text)) :
    ∃ third, (filledLines text)[2]? = some third ∧
      lexProgram text = .ok ((lex text).filter fun t => third.1 < t.loc.line) := by
  obtain ⟨front, rest, hlines, hdrop, hlength, hlast⟩ :=
    exists_dropOpening h (Text.lines text).length
  have hne : front ≠ [] := by
    rintro rfl
    cases hlength
  obtain ⟨before, third, rfl⟩ := List.eq_nil_or_concat front |>.resolve_left hne
  have hthird : isBlankText third.2 = false := hlast third (by simp)
  refine ⟨third, ?_, ?_⟩
  · -- Two lines that are not blank come before it.
    have hfilled : filled (before ++ [third]) = filled before ++ [third] := by
      rw [filled_append, filled_cons hthird]
      rfl
    have htwo : (filled before).length = 2 := by
      rw [List.concat_eq_append, hfilled, List.length_append] at hlength
      exact Nat.succ_injective hlength
    rw [filledLines, hlines, List.concat_eq_append, filled_append, hfilled, List.append_assoc,
      ← htwo, List.getElem?_append_right (Nat.le_refl _), Nat.sub_self]
    rfl
  · have hnumbered := pairwise_numberFrom 1 (Text.lines text)
    have hafter : ((Text.numberedLines text).filter fun line => third.1 < line.1) = rest := by
      rw [Text.numberedLines] at hlines
      rw [hlines, List.concat_eq_append, List.append_assoc, List.singleton_append] at hnumbered
      rw [Text.numberedLines, hlines, List.concat_eq_append, List.append_assoc,
        List.singleton_append]
      exact filter_after hnumbered
    rw [lexProgram, hdrop, lex, filter_lexLines, hafter]
    rfl

/-- The fault of any other text. -/
theorem lexProgram_of_mismatch {text : String} {met : List String} {due : String}
    (h : Mismatch openingLines met due (filledLines text)) :
    lexProgram text =
      .error (missing (Text.lines text).length due (filledLines text)[met.length]?) := by
  rw [lexProgram, dropOpening_of_mismatch h]
  rfl

/-- The opening of a text is checked exactly. The text has tokens if and only if the first of its lines
that are not blank are the opening lines, up to the blanks at their ends, and then it has all the tokens
that stand further down than the third of these lines. And a fault is found if and only if there is a
first opening line that does not match: it names that line, and what stands in its place with its number,
or else that there is nothing and the number after the last line. -/
theorem opening_is_exact (text : String) :
    (∀ ts, lexProgram text = .ok ts ↔ OpenWith openingLines (filledLines text) ∧
      ∃ third, (filledLines text)[2]? = some third ∧
        ts = (lex text).filter fun t => third.1 < t.loc.line) ∧
    ∀ fault, lexProgram text = .error fault ↔
      ∃ met due, met ++ [due] <+: openingLines ∧ OpenWith met (filledLines text) ∧
        ((∃ line, (filledLines text)[met.length]? = some line ∧
            Text.trimEnd line.2 ≠ due.toList ∧ fault = ⟨due, some (String.ofList line.2), line.1⟩) ∨
          ((filledLines text).length = met.length ∧
            fault = ⟨due, none, (Text.lines text).length + 1⟩)) := by
  -- It is enough to know what comes of a text that opens as it has to, and of one that does not.
  have hcases := openWith_or_mismatch openingLines (filledLines text)
  refine ⟨fun ts => ⟨fun hts => ?_, ?_⟩, fun fault => ⟨fun hfault => ?_, ?_⟩⟩
  · rcases hcases with hopen | ⟨met, due, hmismatch⟩
    · obtain ⟨third, hthird, hok⟩ := exists_lexProgram hopen
      rw [hok] at hts
      exact ⟨hopen, third, hthird, (Except.ok.inj hts).symm⟩
    · rw [lexProgram_of_mismatch hmismatch] at hts
      cases hts
  · rintro ⟨hopen, third, hthird, rfl⟩
    obtain ⟨third', hthird', hok⟩ := exists_lexProgram hopen
    rw [hthird] at hthird'
    cases hthird'
    exact hok
  · rcases hcases with hopen | ⟨met, due, hmismatch⟩
    · obtain ⟨third, -, hok⟩ := exists_lexProgram hopen
      rw [hok] at hfault
      cases hfault
    · rw [lexProgram_of_mismatch hmismatch] at hfault
      cases hfault
      exact ⟨met, due, hmismatch.due_follows, hmismatch.begins, hmismatch.missing_cases _⟩
  · rintro ⟨met, due, hdue, hbegins, ⟨line, hline, hdiffers, rfl⟩ | ⟨hlength, rfl⟩⟩
    · rw [lexProgram_of_mismatch (.of_line hdue hbegins hline hdiffers), hline]
      rfl
    · rw [lexProgram_of_mismatch (.of_end hdue hbegins hlength),
        List.getElem?_eq_none (Nat.le_of_eq hlength)]
      rfl

/-- A program whose opening lines have blank lines before and between them, and blanks at their ends. -/
def spreadOpening : String :=
  " \n#include<iostream>\r\n\t\n#include<cstdio> \nusing namespace std;\u3000\nint x;"

/-- A text whose second opening line does not begin at the first column. -/
def indentedOpening : String :=
  "#include<iostream>\n\n #include<cstdio>\nusing namespace std;"

/-- The first one opens as it has to, and its tokens stand in the sixth line. The second one does not, and
the fault shows the line as it is. -/
theorem opening_is_exact_spreadOpening :
    lexProgram spreadOpening = .ok [⟨"int", ⟨6, 1⟩⟩, ⟨"x", ⟨6, 5⟩⟩, ⟨";", ⟨6, 6⟩⟩] ∧
      lexProgram indentedOpening =
        .error ⟨"#include<cstdio>", some " #include<cstdio>", 3⟩ := by
  have hspread : filledLines spreadOpening = [(2, "#include<iostream>".toList),
      (4, "#include<cstdio> ".toList), (5, "using namespace std;\u3000".toList),
      (6, "int x;".toList)] := by
    decide +kernel
  have hindented : filledLines indentedOpening = [(1, "#include<iostream>".toList),
      (3, " #include<cstdio>".toList), (4, "using namespace std;".toList)] := by
    decide +kernel
  refine ⟨((opening_is_exact _).1 _).mpr ?_, ((opening_is_exact _).2 _).mpr ?_⟩
  · rw [hspread]
    refine ⟨?_, _, rfl, ?_⟩
    · unfold OpenWith
      decide
    · decide +kernel
  · rw [hindented]
    refine ⟨["#include<iostream>"], "#include<cstdio>", by decide, ?_, .inl ⟨_, rfl, by decide, ?_⟩⟩
    · unfold OpenWith
      decide
    · decide

end Stepwise.Token
