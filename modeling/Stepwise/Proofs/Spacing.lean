import Stepwise.Proofs.Lexemes

/-!
# Blanks between tokens

How the tokens of a text are spaced out does not matter. A blank ends the token before it and begins
none itself, and a line feed is no different from any other blank, though the text is divided into
lines there before any token is read. So the tokens of a text have the texts of its lexemes, as if it
were a single line. And if lexemes are written one behind the other with blanks between them, then
each is read again, whole and alone.

## Main results

* `Token.toList_texts_lex`: the texts of the tokens are the lexemes of the whole text.
* `Token.lexemes_spaced`: lexemes that have been spaced out are read again.
* `Token.texts_lex_spaced`: tokens that have been spaced out in any other way are the same.
-/

namespace Stepwise.Token

open Text (isBlank isBlankText)

/-! ## Section 1: Lexemes between blanks -/

/-- The runs of a line that are not blank. -/
def lexemes (cs : List Char) : List (List Char) :=
  (runs cs).filter fun run => !isBlankText run

theorem toList_texts_placed (line column : Nat) (pieces : List (List Char)) :
    (placed line column pieces).map (fun t => t.text.toList) =
      pieces.filter fun run => !isBlankText run := by
  induction pieces generalizing column with
  | nil => rfl
  | cons piece pieces ih =>
    rw [placed_cons, List.filter_cons]
    cases hblank : isBlankText piece with
    | true => simpa using ih _
    | false => simpa using ih _

theorem toList_texts_lexLine (line : Nat) (cs : List Char) :
    (lexLine line cs).map (fun t => t.text.toList) = lexemes cs := by
  rw [lexLine_eq_placed, toList_texts_placed, lexemes]

variable {b : Char} (hb : isBlank b = true)

include hb

/-- A blank at the beginning leaves no lexeme behind. -/
theorem filter_runsFrom_blank (cs : List Char) :
    (runsFrom [b] cs).filter (fun run => !isBlankText run) = lexemes cs := by
  have hblank : isBlankText [b] = true := by simp [isBlankText, hb]
  cases cs with
  | nil => simp [runsFrom, lexemes, runs, hblank]
  | cons c cs =>
    -- No character extends a blank: a blank is no word character and begins no operator.
    have hnot : continues [b] c = false := by
      rw [Bool.eq_false_iff]
      intro hc
      rcases continues_cons_iff.mp hc with ⟨hword, -⟩ | ⟨-, hpair⟩
      · rw [isWordChar_of_isBlank hb] at hword
        cases hword
      · rw [(not_word_of_mem_pairs _ hpair b (by simp)).2] at hb
        cases hb
    simp [runsFrom, lexemes, runs, hnot, hblank]

/-- A blank divides the lexemes of a line. -/
theorem filter_runsFrom_append (read xs ys : List Char) :
    (runsFrom read (xs ++ b :: ys)).filter (fun run => !isBlankText run) =
      (runsFrom read xs).filter (fun run => !isBlankText run) ++ lexemes ys := by
  fun_induction runsFrom read xs with
  | case1 read =>
    rw [List.nil_append, runsFrom, continues_of_isBlank hb, if_neg (by decide), List.filter_cons,
      filter_runsFrom_blank hb]
    split <;> simp_all
  | case2 read c xs hc ih => rw [List.cons_append, runsFrom, if_pos hc, ih]
  | case3 read c xs hc ih =>
    rw [List.cons_append, runsFrom, if_neg hc, List.filter_cons, ih, List.filter_cons]
    split <;> simp

theorem lexemes_append_blank (xs ys : List Char) :
    lexemes (xs ++ b :: ys) = lexemes xs ++ lexemes ys := by
  cases xs with
  | nil => exact filter_runsFrom_blank hb ys
  | cons x xs => exact filter_runsFrom_append hb [x] xs ys

omit hb

theorem lexemes_blank_append {gap : List Char} (hgap : isBlankText gap = true) (cs : List Char) :
    lexemes (gap ++ cs) = lexemes cs := by
  induction gap with
  | nil => rfl
  | cons b gap ih =>
    obtain ⟨hb, hgap⟩ := Bool.and_eq_true_iff.mp hgap
    have hfirst := lexemes_append_blank hb [] (gap ++ cs)
    rw [List.cons_append]
    exact hfirst.trans (ih hgap)

/-! ## Section 2: The lexemes of a text -/

/-- The carriage return that a line may end in is no part of a lexeme. -/
theorem lexemes_dropReturn (line : List Char) :
    lexemes (Text.dropReturn line).reverse = lexemes line.reverse := by
  unfold Text.dropReturn
  split
  · next rest =>
    have hreturn := lexemes_append_blank (b := '\r') (by decide) rest.reverse []
    rw [List.reverse_cons, hreturn]
    simp [lexemes, runs]
  · rfl

/-- The lexemes of the lines of a text are those of the text: a line feed divides them as every other
blank does. -/
theorem flatMap_lexemes_linesFrom (line cs : List Char) :
    (Text.linesFrom line cs).flatMap lexemes = lexemes (line.reverse ++ cs) := by
  induction cs generalizing line with
  | nil =>
    rw [Text.linesFrom, List.append_nil]
    split
    · next hempty =>
      rw [List.isEmpty_iff.mp hempty]
      rfl
    · simp
  | cons c cs ih =>
    rw [Text.linesFrom]
    split
    · next hfeed =>
      rw [hfeed, List.flatMap_cons, ih, lexemes_dropReturn,
        lexemes_append_blank Text.isBlank_newline]
      rfl
    · rw [ih, List.reverse_cons, List.append_assoc]
      rfl

theorem toList_texts_lexLines (first : Nat) (lines : List (List Char)) :
    (lexLines (Text.numberFrom first lines)).map (fun t => t.text.toList) =
      lines.flatMap lexemes := by
  induction lines generalizing first with
  | nil => rfl
  | cons line lines ih =>
    rw [Text.numberFrom, lexLines, List.flatMap_cons, List.map_append, toList_texts_lexLine,
      List.flatMap_cons]
    exact congrArg _ (ih (first + 1))

/-- The texts of the tokens are the lexemes of the whole text. -/
theorem toList_texts_lex (text : String) :
    (lex text).map (fun t => t.text.toList) = lexemes text.toList :=
  (toList_texts_lexLines 1 (Text.lines text)).trans (flatMap_lexemes_linesFrom [] text.toList)

/-! ## Section 3: Spacing out -/

/-- Word characters after a word character are all in one run. -/
theorem runsFrom_of_word {last : Char} {before cs : List Char} (hlast : isWordChar last = true)
    (h : ∀ c ∈ cs, isWordChar c = true) :
    runsFrom (last :: before) cs = [(last :: before).reverse ++ cs] := by
  induction cs generalizing last before with
  | nil => simp [runsFrom]
  | cons c cs ih =>
    obtain ⟨hc, hcs⟩ := List.forall_mem_cons.mp h
    rw [runsFrom, if_pos (continues_cons_iff.mpr (.inl ⟨hlast, hc⟩)), ih hc hcs]
    simp

/-- A lexeme is read as a single run. -/
theorem Lexeme.runs_eq {cs : List Char} (h : Lexeme cs) : runs cs = [cs] := by
  cases h with
  | word hne hword =>
    obtain ⟨c, cs, rfl⟩ := List.exists_cons_of_ne_nil hne
    obtain ⟨hc, hcs⟩ := List.forall_mem_cons.mp hword
    exact runsFrom_of_word hc hcs
  | pair h =>
    have hpairs : ∀ cs ∈ pairs, runs cs = [cs] := by decide
    exact hpairs cs h
  | symbol _ _ => rfl

/-- A lexeme is read whole if a blank follows it, or nothing. -/
theorem Lexeme.lexemes_append {cs rest : List Char} (h : Lexeme cs)
    (hrest : ∀ c ∈ rest.head?, isBlank c = true) : lexemes (cs ++ rest) = cs :: lexemes rest := by
  have halone : lexemes cs = [cs] := by
    rw [lexemes, h.runs_eq]
    simp [h.isBlankText_eq_false]
  cases rest with
  | nil => rw [List.append_nil, halone]; rfl
  | cons b rest =>
    have hb := hrest b rfl
    have hfirst := lexemes_append_blank hb [] rest
    rw [List.nil_append] at hfirst
    rw [lexemes_append_blank hb, halone, hfirst]
    rfl

/-- Texts one behind the other, with `gap 0` before the first one and `gap i` behind the `i`-th. -/
def spaced (gap : Nat → String) : List String → String
  | [] => gap 0
  | text :: texts => gap 0 ++ text ++ spaced (fun i => gap (i + 1)) texts

/-- Texts that have been spaced out begin with a blank, if the first gap is not empty. -/
theorem isBlank_of_mem_head?_spaced {gap : Nat → String} {texts : List String}
    (hblank : isBlankText (gap 0).toList = true) (hgap : texts ≠ [] → gap 0 ≠ "") :
    ∀ c ∈ (spaced gap texts).toList.head?, isBlank c = true := by
  intro c hc
  have hfirst : c ∈ (gap 0).toList.head? := by
    cases texts with
    | nil => exact hc
    | cons text texts =>
      have hne : (gap 0).toList ≠ [] := fun hnil =>
        hgap (List.cons_ne_nil _ _) (String.toList_eq_nil_iff.mp hnil)
      obtain ⟨d, ds, hcons⟩ := List.exists_cons_of_ne_nil hne
      rw [spaced, String.toList_append, String.toList_append, hcons] at hc
      rw [hcons]
      exact hc
  exact List.all_eq_true.mp hblank c (List.mem_of_mem_head? hfirst)

/-- Lexemes are read again from a text in which they have been spaced out: all gaps are blank, and
those between two lexemes are not empty. -/
theorem lexemes_spaced {texts : List String} (htexts : ∀ text ∈ texts, Lexeme text.toList)
    (gap : Nat → String) (hblank : ∀ i ≤ texts.length, isBlankText (gap i).toList = true)
    (hgap : ∀ i, 0 < i → i < texts.length → gap i ≠ "") :
    lexemes (spaced gap texts).toList = texts.map String.toList := by
  induction texts generalizing gap with
  | nil =>
    have hempty := lexemes_blank_append (hblank 0 (Nat.le_refl 0)) []
    rw [List.append_nil] at hempty
    exact hempty
  | cons text texts ih =>
    obtain ⟨htext, htexts⟩ := List.forall_mem_cons.mp htexts
    have hrest : lexemes (spaced (fun i => gap (i + 1)) texts).toList = texts.map String.toList :=
      ih htexts _ (fun i hi => hblank (i + 1) (Nat.succ_le_succ hi))
        fun i _ hi => hgap (i + 1) (Nat.succ_pos i) (Nat.succ_lt_succ hi)
    have hhead : ∀ c ∈ (spaced (fun i => gap (i + 1)) texts).toList.head?, isBlank c = true := by
      refine isBlank_of_mem_head?_spaced (hblank 1 (by simp)) fun hne => ?_
      exact hgap 1 Nat.one_pos (Nat.succ_lt_succ (List.length_pos_iff.mpr hne))
    rw [spaced, String.toList_append, String.toList_append, List.append_assoc,
      lexemes_blank_append (hblank 0 (Nat.zero_le _)), htext.lexemes_append hhead, hrest]
    rfl

/-- The tokens of a text are the same however they are spaced out: with any blanks before, between
and after them, as long as there is a blank between any two. -/
theorem texts_lex_spaced (text : String) (gap : Nat → String)
    (hblank : ∀ i ≤ (lex text).length, isBlankText (gap i).toList = true)
    (hgap : ∀ i, 0 < i → i < (lex text).length → gap i ≠ "") :
    (lex (spaced gap ((lex text).map Token.text))).map Token.text = (lex text).map Token.text := by
  have hlexemes : ∀ word ∈ (lex text).map Token.text, Lexeme word.toList := by
    rw [List.forall_mem_map]
    exact fun t => lexeme_of_mem_lex
  have hspaced := lexemes_spaced hlexemes gap (by simpa using hblank) (by simpa using hgap)
  rw [← toList_texts_lex, List.map_map] at hspaced
  -- Texts with the same characters are the same.
  have hinjective : Function.Injective String.toList := fun _ _ h => String.toList_injective h
  refine List.map_injective_iff.mpr hinjective ?_
  rw [List.map_map, List.map_map]
  exact hspaced

/-- The header of a loop without any blank in it. -/
def packedHeader : String :=
  "while(a<=-1||!b)"

/-- Blanks of many kinds. A carriage return alone breaks no line, but it is a blank. -/
def oddGaps : Nat → String
  | 0 => "\n"
  | 1 => "\r"
  | 2 => "\t \u3000"
  | 3 => "\r\n"
  | 10 => ""
  | _ => "\u2028\n"

/-- The tokens are read again from between the blanks. -/
theorem texts_lex_spaced_oddGaps :
    (lex (spaced oddGaps ["while", "(", "a", "<=", "-", "1", "||", "!", "b", ")"])).map Token.text =
      ["while", "(", "a", "<=", "-", "1", "||", "!", "b", ")"] := by
  have hlex : (lex packedHeader).map Token.text =
      ["while", "(", "a", "<=", "-", "1", "||", "!", "b", ")"] := by
    decide +kernel
  have hlength : (lex packedHeader).length = 10 := by
    simpa using congrArg List.length hlex
  have hblank : ∀ i ≤ 10, isBlankText (oddGaps i).toList = true := by decide
  have hgap : ∀ i < 10, 0 < i → oddGaps i ≠ "" := by decide
  have hspaced := texts_lex_spaced packedHeader oddGaps (by rwa [hlength])
    fun i hpos hi => hgap i (by rwa [hlength] at hi) hpos
  rwa [hlex] at hspaced

end Stepwise.Token
