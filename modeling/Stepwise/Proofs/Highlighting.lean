import Stepwise.Proofs.StatementWriting
import Stepwise.Viewer.Highlight

/-!
# Lines in words and marks

A line of program text is shown in spans, one for each of its pieces. A word goes on as long as word
characters do, and whatever is no word character is a piece by itself, so that there is always something
between two words. A line can therefore be divided in one way only, and what a piece is can be told from
the text in front of it and the text behind it, whether another character ends a word or the line does.

Which words keep their style wherever they stand is a matter of the language: its keywords, the names that
have to do with its streams, and its numerals. Any other word is a name, and has the style of a function
where it is called and only there.

## Main results

* `Piece.ofLine_eq_iff`: the pieces of a line are its only division.
* `Piece.Division.stands`: each piece of a division, by the text on both of its sides.
* `highlight_divides_line`: the spans of a line make up the line, each is a whole word or a single mark,
  and a name has the style of a function exactly if an opening parenthesis follows it.
-/

namespace Stepwise

open Token (isWordChar)

namespace Piece

/-! ## Section 1: Division of a line -/

/-- A line and its pieces. A word ends where the word characters do, and it is called if the character
behind it is an opening parenthesis. -/
inductive Division : List Char → List Piece → Prop where
  /-- There is nothing in an empty line. -/
  | nil : Division [] []
  /-- A character that is part of no word. -/
  | mark {c : Char} {cs : List Char} {pieces : List Piece} (hmark : isWordChar c = false)
      (more : Division cs pieces) : Division (c :: cs) (.mark c :: pieces)
  /-- A word, which does not go on behind it. -/
  | word {run cs : List Char} {pieces : List Piece} (hne : run ≠ [])
      (hword : ∀ c ∈ run, isWordChar c = true) (hends : ∀ c ∈ cs.head?, isWordChar c = false)
      (more : Division cs pieces) :
      Division (run ++ cs) (.word run (cs.head? == some '(') :: pieces)

variable {line : List Char} {pieces before after : List Piece} {piece : Piece}

/-- A word that has been read backwards is divided off where it ends, if there is one. -/
theorem division_ofWord_append {backwards cs : List Char}
    (hword : ∀ c ∈ backwards, isWordChar c = true) (hends : ∀ c ∈ cs.head?, isWordChar c = false)
    (more : Division cs pieces) :
    Division (backwards.reverse ++ cs) (ofWord backwards (cs.head? == some '(') ++ pieces) := by
  cases backwards with
  | nil => exact more
  | cons c backwards =>
    have hrun : ∀ d ∈ (c :: backwards).reverse, isWordChar d = true := by
      simpa only [List.mem_reverse] using hword
    exact .word (by simp) hrun hends more

theorem division_ofLineFrom {backwards : List Char} (cs : List Char)
    (hword : ∀ c ∈ backwards, isWordChar c = true) :
    Division (backwards.reverse ++ cs) (ofLineFrom backwards cs) := by
  fun_induction ofLineFrom backwards cs with
  | case1 backwards =>
    have hends : ∀ c ∈ ([] : List Char).head?, isWordChar c = false := by simp
    simpa using division_ofWord_append hword hends .nil
  | case2 backwards c cs hc ih =>
    simpa using ih (List.forall_mem_cons.mpr ⟨hc, hword⟩)
  | case3 backwards c cs hc ih =>
    have hmark : isWordChar c = false := by simpa using hc
    exact division_ofWord_append hword (by simpa using hmark) (.mark hmark (ih (List.forall_mem_nil _)))

/-- Word characters join the word that is being read. -/
theorem ofLineFrom_append {run : List Char} (backwards cs : List Char)
    (hword : ∀ c ∈ run, isWordChar c = true) :
    ofLineFrom backwards (run ++ cs) = ofLineFrom (run.reverse ++ backwards) cs := by
  induction run generalizing backwards with
  | nil => rfl
  | cons c run ih =>
    obtain ⟨hc, hrun⟩ := List.forall_mem_cons.mp hword
    rw [List.cons_append, ofLineFrom, if_pos hc, ih _ hrun, List.reverse_cons, List.append_assoc,
      List.singleton_append]

/-- Where no word goes on, the pieces are those of the word before and of the line behind. -/
theorem ofLineFrom_of_ends (backwards : List Char) {cs : List Char}
    (hends : ∀ c ∈ cs.head?, isWordChar c = false) :
    ofLineFrom backwards cs = ofWord backwards (cs.head? == some '(') ++ ofLine cs := by
  cases cs with
  | nil => simp [ofLine, ofLineFrom, ofWord]
  | cons c cs =>
    have hmark : isWordChar c = false := hends c rfl
    simp [ofLine, ofLineFrom, ofWord, hmark]

theorem Division.ofLine_eq (h : Division line pieces) : ofLine line = pieces := by
  induction h with
  | nil => rfl
  | @mark c cs pieces hmark _ ih =>
    rw [ofLine, ofLineFrom, hmark, if_neg Bool.false_ne_true, ← ofLine, ih]
    rfl
  | @word run cs pieces hne hword hends _ ih =>
    -- The whole run is read before the first character that ends it, and is divided off there.
    have hrun : ofWord run.reverse (cs.head? == some '(') = [.word run (cs.head? == some '(')] := by
      simp [ofWord, hne]
    rw [ofLine, ofLineFrom_append _ _ hword, List.append_nil, ofLineFrom_of_ends _ hends, ih, hrun]
    rfl

/-- The pieces of a line are the only ones that it can be divided into. -/
theorem ofLine_eq_iff : ofLine line = pieces ↔ Division line pieces := by
  constructor
  · rintro rfl
    exact division_ofLineFrom line (List.forall_mem_nil _)
  · exact Division.ofLine_eq

/-! ## Section 2: The text on both sides of a piece -/

/-- A run of word characters, between the text in front of it and the text behind it, that goes on at
neither end. -/
structure IsWholeWord (front run back : List Char) : Prop where
  ne_nil : run ≠ []
  word_chars : ∀ c ∈ run, isWordChar c = true
  front_ends : ∀ c ∈ front.getLast?, isWordChar c = false
  back_ends : ∀ c ∈ back.head?, isWordChar c = false

/-- How a piece stands between the text in front of it and the text behind it. -/
inductive Stands (front back : List Char) : Piece → Prop where
  /-- A whole word. -/
  | word {run : List Char} (h : IsWholeWord front run back) :
      Stands front back (.word run (back.head? == some '('))
  /-- A character that is part of no word. -/
  | mark {c : Char} (h : isWordChar c = false) : Stands front back (.mark c)

namespace Division

theorem text_eq (h : Division line pieces) : pieces.flatMap text = line := by
  rw [← h.ofLine_eq, flatMap_text_ofLine]

/-- What is behind some pieces is divided into the pieces that follow. -/
theorem behind (h : Division line (before ++ after)) : Division (after.flatMap text) after := by
  induction before generalizing line with
  | nil =>
    rw [List.nil_append] at h
    rwa [h.text_eq]
  | cons piece before ih =>
    cases h with
    | mark _ more => exact ih more
    | word _ _ _ more => exact ih more

/-- A line in which no word goes on does not begin with a word. -/
theorem not_head_word {cs run : List Char} {called : Bool}
    (hends : ∀ c ∈ cs.head?, isWordChar c = false) : ¬Division cs (.word run called :: after) := by
  intro h
  cases h with
  | @word _ cs _ hne hword _ _ =>
    obtain ⟨c, run, rfl⟩ := List.exists_cons_of_ne_nil hne
    have hc : isWordChar c = true := hword c List.mem_cons_self
    rw [hends c rfl] at hc
    cases hc

/-- What stands in front of a word does not end in a word character: the piece before a word cannot be
another word, because that one would not have ended there. -/
theorem front_ends {run : List Char} {called : Bool}
    (h : Division line (before ++ .word run called :: after)) :
    ∀ c ∈ (before.flatMap text).getLast?, isWordChar c = false := by
  rcases List.eq_nil_or_concat before with rfl | ⟨first, last, rfl⟩
  · simp
  · rw [List.concat_eq_append, List.append_assoc, List.singleton_append] at h
    have hlast := h.behind
    -- Only a division of a line that is not yet known can be told apart by its cases.
    generalize (last :: .word run called :: after).flatMap text = rest at hlast
    cases hlast with
    | mark hmark _ => simpa [text] using hmark
    | word _ _ hends more => exact absurd more (not_head_word hends)

/-- Each piece of a division is a whole word or a mark between the texts of the other pieces. -/
theorem stands (h : Division line (before ++ piece :: after)) :
    Stands (before.flatMap text) (after.flatMap text) piece := by
  have hpiece := h.behind
  generalize (piece :: after).flatMap text = rest at hpiece
  cases hpiece with
  | mark hmark _ => exact .mark hmark
  | word hne hword hends more =>
    -- What the word is divided off from is the text of the pieces behind it.
    rw [← more.text_eq] at hends ⊢
    exact .word ⟨hne, hword, h.front_ends, hends⟩

end Division

/-! ## Section 3: The style of a word -/

/-- A word that is a name like any other: neither a keyword of the language, nor the name of a stream, of
the end of a line or of the function that prints a byte, nor a numeral. -/
def IsOrdinary (word : String) : Prop :=
  word ∉ Statement.keywords ∧ word ∉ "putchar" :: Expression.streamWords ∧
    ∀ c ∈ word.toList.head?, Text.isDigit c = false

theorem mem_keywords_iff {word : String} :
    word ∈ Statement.keywords ↔ word = "int" ∨ word ∈ keywords := by
  simp only [Statement.keywords, keywords, List.mem_cons, List.not_mem_nil, or_false]
  grind

theorem mem_streamNames_iff {word : String} :
    word ∈ streamNames ↔ word ∈ "putchar" :: Expression.streamWords := by
  simp only [streamNames, Expression.streamWords, List.mem_cons, List.not_mem_nil, or_false]
  grind

theorem startsWithDigit_eq_false_iff {run : List Char} :
    startsWithDigit run = false ↔ ∀ c ∈ run.head?, Text.isDigit c = false := by
  cases run <;> simp [startsWithDigit]

/-- The style of an ordinary word is left to what follows it. -/
theorem wordStyle_of_isOrdinary {run : List Char} (h : IsOrdinary (String.ofList run)) (called : Bool) :
    wordStyle run called = Theme.ink (if called then Theme.function else Theme.text) := by
  obtain ⟨hkeyword, hstream, hdigit⟩ := h
  rw [mem_keywords_iff, not_or] at hkeyword
  rw [← mem_streamNames_iff] at hstream
  rw [String.toList_ofList, ← startsWithDigit_eq_false_iff] at hdigit
  simp only [wordStyle, hkeyword, hstream, hdigit, if_false, Bool.false_eq_true]
  exact (apply_ite Theme.ink _ _ _).symm

/-- An ordinary word has the style of a function if and only if it is called. -/
theorem wordStyle_eq_function_iff {run : List Char} (h : IsOrdinary (String.ofList run)) {called : Bool} :
    wordStyle run called = Theme.ink Theme.function ↔ called = true := by
  rw [wordStyle_of_isOrdinary h]
  cases called <;> decide

end Piece

/-! ## Section 4: The spans of a line -/

/-- The text that some spans show together. -/
def Span.shownText (spans : List Span) : List Char :=
  spans.flatMap fun span => span.text.toList

theorem Piece.shownText_map_span (pieces : List Piece) :
    Span.shownText (pieces.map span) = pieces.flatMap text := by
  simp [Span.shownText, List.flatMap_map, span]

/-- The spans of a line show the line and nothing else. Wherever one of them stands, it is a single
character that is part of no word, or a run of word characters that cannot be made longer at either end;
and if such a run is an ordinary word, it has the style of a function exactly if the next character of the
line is an opening parenthesis. -/
theorem highlight_divides_line (line : List Char) :
    Span.shownText (highlight line) = line ∧
      ∀ before span after, highlight line = before ++ span :: after →
        (∃ c, isWordChar c = false ∧ span.text.toList = [c]) ∨
          (Piece.IsWholeWord (Span.shownText before) span.text.toList (Span.shownText after) ∧
            (Piece.IsOrdinary span.text →
              (span.style = Theme.ink Theme.function ↔
                (Span.shownText after).head? = some '('))) := by
  have hdivision : Piece.Division line (Piece.ofLine line) := Piece.ofLine_eq_iff.mp rfl
  constructor
  · rw [highlight, Piece.shownText_map_span, hdivision.text_eq]
  · intro before span after hspans
    obtain ⟨front, rest, hpieces, rfl, hrest⟩ := List.map_eq_append_iff.mp hspans
    obtain ⟨piece, back, rfl, rfl, rfl⟩ := List.map_eq_cons_iff.mp hrest
    rw [hpieces] at hdivision
    rw [Piece.shownText_map_span, Piece.shownText_map_span]
    cases hdivision.stands with
    | mark h => exact .inl ⟨_, h, String.toList_ofList⟩
    | word h =>
      refine .inr ⟨?_, fun hordinary => ?_⟩
      · rw [Piece.span, String.toList_ofList]
        exact h
      · exact (Piece.wordStyle_eq_function_iff hordinary).trans beq_iff_eq

/-- A line with a letter at its front that is part of no word, and with a word at its end. -/
def calledOnce : List Char :=
  ['é', 'f', '2', '(', 'x', ')', '+', '_', 'g']

/-- Of the words of this line, the first one is called and has the style of a function, and the last one,
behind which there is nothing, has not. -/
theorem highlight_divides_line_calledOnce :
    (∃ span ∈ highlight calledOnce, Piece.IsOrdinary span.text ∧
        Piece.IsWholeWord ['é'] span.text.toList ['(', 'x', ')', '+', '_', 'g'] ∧
          span.style = Theme.ink Theme.function) ∧
      ∃ span ∈ highlight calledOnce, Piece.IsOrdinary span.text ∧
        Piece.IsWholeWord ['é', 'f', '2', '(', 'x', ')', '+'] span.text.toList [] ∧
          span.style ≠ Theme.ink Theme.function := by
  obtain ⟨-, hspans⟩ := highlight_divides_line calledOnce
  let first : List Span := [Piece.span (.mark 'é')]
  let called : Span := Piece.span (.word ['f', '2'] true)
  let between : List Span := [Piece.span (.mark '('), Piece.span (.word ['x'] false),
    Piece.span (.mark ')'), Piece.span (.mark '+')]
  let final : Span := Piece.span (.word ['_', 'g'] false)
  have hcalled : highlight calledOnce = first ++ called :: (between ++ [final]) := by decide
  have hfinal : highlight calledOnce = (first ++ called :: between) ++ final :: [] := by decide
  constructor
  · have hordinary : Piece.IsOrdinary called.text :=
      ⟨by decide, by decide, Piece.startsWithDigit_eq_false_iff.mp (by decide)⟩
    have hlength : called.text.toList.length = 2 := by decide
    have hfront : Span.shownText first = ['é'] := by decide
    have hback : Span.shownText (between ++ [final]) = ['(', 'x', ')', '+', '_', 'g'] := by decide
    rcases hspans _ _ _ hcalled with ⟨c, -, hc⟩ | ⟨hword, hstyle⟩
    · simp [hc] at hlength
    · rw [hfront, hback] at hword
      rw [hback] at hstyle
      exact ⟨called, by simp [hcalled], hordinary, hword, (hstyle hordinary).mpr rfl⟩
  · have hordinary : Piece.IsOrdinary final.text :=
      ⟨by decide, by decide, Piece.startsWithDigit_eq_false_iff.mp (by decide)⟩
    have hlength : final.text.toList.length = 2 := by decide
    have hfront : Span.shownText (first ++ called :: between) =
        ['é', 'f', '2', '(', 'x', ')', '+'] := by decide
    rcases hspans _ _ _ hfinal with ⟨c, -, hc⟩ | ⟨hword, hstyle⟩
    · simp [hc] at hlength
    · rw [hfront] at hword
      refine ⟨final, by simp [hfinal], hordinary, hword, fun hfunction => ?_⟩
      cases (hstyle hordinary).mp hfunction

end Stepwise
