import Mathlib.Data.List.Chain
import Mathlib.Data.List.Pairwise
import Stepwise.Proofs.Extension
import Stepwise.Proofs.Places

/-!
# Lexemes

Reading a line from left to right divides it into runs: a character that extends what has been read
since the last division joins it, and every other one begins a run of its own. So a line is its runs
put together, no run could have been any longer, and the tokens of the line are its runs at the
columns where they begin, without those that are blank.

A run that is not blank is a lexeme, which has one of three shapes: a word, one of eight operators of
two characters, or a single symbol.

## Main results

* `Token.flatten_runs`, `Token.isChain_runs`: a line is its runs, and none of them goes on in the next.
* `Token.lexLine_eq_placed`: the tokens of a line are its runs at their places.
* `Token.lex_covers_text`: the tokens of a text cover it, each where it says and as long as it can be.
-/

namespace Stepwise.Token

open Text (isBlank isBlankText)

/-! ## Section 1: Lexemes -/

/-- The operators of two characters. -/
def pairs : List (List Char) :=
  ["<=", ">=", "==", "!=", "&&", "||", "<<", ">>"].map String.toList

/-- What the characters of a token can be. -/
inductive Lexeme : List Char → Prop where
  /-- A word or a numeral. -/
  | word {cs : List Char} (hne : cs ≠ []) (hword : ∀ c ∈ cs, isWordChar c = true) : Lexeme cs
  /-- An operator of two characters. -/
  | pair {cs : List Char} (h : cs ∈ pairs) : Lexeme cs
  /-- Any other character that is not blank. -/
  | symbol {c : Char} (hword : isWordChar c = false) (hblank : isBlank c = false) : Lexeme [c]

theorem isBlank_of_isWordChar {c : Char} (h : isWordChar c = true) : isBlank c = false := by
  rw [Bool.eq_false_iff]
  intro hblank
  rw [isWordChar_of_isBlank hblank] at h
  cases h

/-- The characters of the operators are neither word characters nor blanks. -/
theorem not_word_of_mem_pairs :
    ∀ cs ∈ pairs, ∀ c ∈ cs, isWordChar c = false ∧ isBlank c = false := by
  have hall : (pairs.all fun cs => cs.all fun c => !isWordChar c && !isBlank c) = true := by decide
  simpa [List.all_eq_true] using hall

theorem ne_nil_of_mem_pairs : ∀ cs ∈ pairs, cs ≠ [] := by
  decide

/-- A character extends a word if it can stand in one, and it extends another character if the two
are an operator. -/
theorem continues_cons_iff {last : Char} {before : List Char} {c : Char} :
    continues (last :: before) c = true ↔
      (isWordChar last = true ∧ isWordChar c = true) ∨ (before = [] ∧ [last, c] ∈ pairs) := by
  have hpairs : [last, c] ∈ pairs ↔
      (c = '=' ∧ (last = '<' ∨ last = '>' ∨ last = '=' ∨ last = '!')) ∨
        (c = last ∧ (last = '&' ∨ last = '|' ∨ last = '<' ∨ last = '>')) := by
    simp [pairs]
    grind
  rw [hpairs]
  simp [continues, or_assoc]

namespace Lexeme

variable {cs : List Char}

/-- There are no blanks in a lexeme. -/
theorem isBlank_eq_false (h : Lexeme cs) : ∀ c ∈ cs, isBlank c = false := by
  cases h with
  | word _ hword => exact fun c hc => isBlank_of_isWordChar (hword c hc)
  | pair h => exact fun c hc => (not_word_of_mem_pairs cs h c hc).2
  | symbol _ hblank => exact List.forall_mem_singleton.mpr hblank

theorem ne_nil (h : Lexeme cs) : cs ≠ [] := by
  cases h with
  | word hne _ => exact hne
  | pair h => exact ne_nil_of_mem_pairs cs h
  | symbol _ _ => exact List.cons_ne_nil _ _

theorem isBlankText_eq_false (h : Lexeme cs) : isBlankText cs = false := by
  obtain ⟨c, cs, rfl⟩ := List.exists_cons_of_ne_nil h.ne_nil
  simp [isBlankText, h.isBlank_eq_false c]

end Lexeme

/-- What reading can have divided off: a lexeme, or a blank by itself. -/
def Piece (cs : List Char) : Prop :=
  Lexeme cs ∨ ∃ c, isBlank c = true ∧ cs = [c]

namespace Piece

variable {cs : List Char}

theorem ne_nil (h : Piece cs) : cs ≠ [] := by
  rcases h with h | ⟨c, -, rfl⟩
  · exact h.ne_nil
  · exact List.cons_ne_nil _ _

/-- A piece that is not blank is a lexeme. -/
theorem lexeme (h : Piece cs) (hblank : isBlankText cs = false) : Lexeme cs := by
  rcases h with h | ⟨c, hc, rfl⟩
  · exact h
  · simp [isBlankText, hc] at hblank

/-- Every character is a piece by itself. -/
theorem singleton (c : Char) : Piece [c] := by
  cases hblank : isBlank c with
  | true => exact .inr ⟨c, hblank, rfl⟩
  | false =>
    cases hword : isWordChar c with
    | true => exact .inl (.word (List.cons_ne_nil _ _) (List.forall_mem_singleton.mpr hword))
    | false => exact .inl (.symbol hword hblank)

/-- A piece with a word character in it is a word. -/
theorem forall_isWordChar (h : Piece cs) {c : Char} (hmem : c ∈ cs) (hc : isWordChar c = true) :
    ∀ d ∈ cs, isWordChar d = true := by
  rcases h with h | ⟨b, hblank, rfl⟩
  · cases h with
    | word _ hword => exact hword
    | pair hpair =>
      -- Pairs and symbols have no word characters in them.
      rw [(not_word_of_mem_pairs cs hpair c hmem).1] at hc
      cases hc
    | symbol hsymbol _ =>
      rw [List.mem_singleton.mp hmem, hsymbol] at hc
      cases hc
  · rw [List.mem_singleton.mp hmem, isWordChar_of_isBlank hblank] at hc
    cases hc

/-- A piece that has been extended is a piece. -/
theorem extended {read : List Char} {c : Char} (h : Piece read.reverse)
    (hc : continues read c = true) : Piece (c :: read).reverse := by
  cases read with
  | nil => cases hc
  | cons last before =>
    -- Either a word grows, or a symbol becomes the first half of a pair.
    rcases continues_cons_iff.mp hc with ⟨hlast, hword⟩ | ⟨rfl, hpair⟩
    · refine .inl (.word (by simp) ?_)
      rw [List.reverse_cons, List.forall_mem_append, List.forall_mem_singleton]
      exact ⟨h.forall_isWordChar (by simp) hlast, hword⟩
    · exact .inl (.pair hpair)

end Piece

/-! ## Section 2: Runs -/

/-- The runs of a line of which `read` has been read since the last division, last one first. -/
def runsFrom (read : List Char) : List Char → List (List Char)
  | [] => [read.reverse]
  | c :: cs =>
    if continues read c then runsFrom (c :: read) cs else read.reverse :: runsFrom [c] cs

/-- The runs of a line. -/
def runs : List Char → List (List Char)
  | [] => []
  | c :: cs => runsFrom [c] cs

theorem flatten_runsFrom (read cs : List Char) :
    (runsFrom read cs).flatten = read.reverse ++ cs := by
  fun_induction runsFrom read cs with
  | case1 => simp
  | case2 read c cs _ ih => simp [ih]
  | case3 read c cs _ ih => simp [ih]

/-- The runs of a line, put together, are the line. -/
theorem flatten_runs (cs : List Char) : (runs cs).flatten = cs := by
  cases cs with
  | nil => rfl
  | cons c cs => exact flatten_runsFrom [c] cs

/-- The first run begins with what has been read. -/
theorem exists_runsFrom (read cs : List Char) :
    ∃ more rest, runsFrom read cs = (read.reverse ++ more) :: rest := by
  fun_induction runsFrom read cs with
  | case1 => exact ⟨[], [], by simp⟩
  | case2 read c cs _ ih =>
    obtain ⟨more, rest, h⟩ := ih
    exact ⟨c :: more, rest, by simp [h]⟩
  | case3 read c cs _ _ => exact ⟨[], runsFrom [c] cs, by simp⟩

/-- No run goes on in the next one: the first character there does not extend it. -/
def Ends (run next : List Char) : Prop :=
  ∀ c ∈ next.head?, continues run.reverse c = false

theorem isChain_runsFrom (read cs : List Char) : (runsFrom read cs).IsChain Ends := by
  fun_induction runsFrom read cs with
  | case1 => exact .singleton _
  | case2 read c cs _ ih => exact ih
  | case3 read c cs hc ih =>
    obtain ⟨more, rest, h⟩ := exists_runsFrom [c] cs
    rw [h] at ih ⊢
    refine .cons_cons (fun d hd => ?_) ih
    rw [List.reverse_singleton, List.singleton_append, List.head?_cons] at hd
    rw [List.reverse_reverse, ← Option.some.inj hd]
    simpa using hc

theorem isChain_runs (cs : List Char) : (runs cs).IsChain Ends := by
  cases cs with
  | nil => exact .nil
  | cons c cs => exact isChain_runsFrom [c] cs

theorem piece_of_mem_runsFrom {read cs : List Char} (hread : Piece read.reverse) :
    ∀ run ∈ runsFrom read cs, Piece run := by
  fun_induction runsFrom read cs with
  | case1 => exact List.forall_mem_singleton.mpr hread
  | case2 read c cs hc ih => exact ih (hread.extended hc)
  | case3 read c cs _ ih => exact List.forall_mem_cons.mpr ⟨hread, ih (.singleton c)⟩

theorem piece_of_mem_runs {cs : List Char} : ∀ run ∈ runs cs, Piece run := by
  cases cs with
  | nil => exact List.forall_mem_nil _
  | cons c cs => exact piece_of_mem_runsFrom (.singleton c)

/-! ## Section 3: Tokens are runs at their places -/

/-- The runs of a line as tokens, without the blank ones; the first of them begins at `column`. -/
def placed (line column : Nat) : List (List Char) → List Token
  | [] => []
  | run :: more => emit line column run.reverse (placed line (column + run.length) more)

theorem lexFrom_eq_placed (line start : Nat) (read cs : List Char) :
    lexFrom line start (start + read.length) read cs = placed line start (runsFrom read cs) := by
  induction cs generalizing start read with
  | nil => simp [lexFrom, runsFrom, placed]
  | cons c cs ih =>
    rw [lexFrom, runsFrom]
    -- A character that goes on with the run is no division; any other begins the next one.
    split
    · exact ih start (c :: read)
    · have hnext := ih (start + read.length) [c]
      rw [List.length_singleton] at hnext
      rw [hnext, placed, List.reverse_reverse, List.length_reverse]

/-- The tokens of a line are its runs where they begin. -/
theorem lexLine_eq_placed (line : Nat) (cs : List Char) : lexLine line cs = placed line 1 (runs cs) := by
  cases cs with
  | nil => rfl
  | cons c cs => exact lexFrom_eq_placed line 1 [c] cs

theorem placed_cons (line column : Nat) (run : List Char) (more : List (List Char)) :
    placed line column (run :: more) =
      if isBlankText run then placed line (column + run.length) more
      else ⟨String.ofList run, ⟨line, column⟩⟩ :: placed line (column + run.length) more := by
  simp [placed, emit, isBlankText]

/-- A token begins where the runs before it end. -/
theorem mem_placed {line column : Nat} {pieces : List (List Char)} {t : Token} :
    t ∈ placed line column pieces ↔
      ∃ before run after, pieces = before ++ run :: after ∧ isBlankText run = false ∧
        t = ⟨String.ofList run, ⟨line, column + before.flatten.length⟩⟩ := by
  induction pieces generalizing column with
  | nil => simp [placed]
  | cons piece pieces ih =>
    rw [placed_cons]
    constructor
    · intro ht
      -- The first run gives a token unless it is blank, and all others come from the runs behind it.
      have hcases : t ∈ placed line (column + piece.length) pieces ∨
          (isBlankText piece = false ∧ t = ⟨String.ofList piece, ⟨line, column⟩⟩) := by
        split at ht
        · exact .inl ht
        · next hblank =>
          rcases List.mem_cons.mp ht with hhead | htail
          · exact .inr ⟨by simpa using hblank, hhead⟩
          · exact .inl htail
      rcases hcases with htail | ⟨hblank, rfl⟩
      · obtain ⟨before, run, after, rfl, hblank, rfl⟩ := ih.mp htail
        exact ⟨piece :: before, run, after, rfl, hblank, by simp [Nat.add_assoc]⟩
      · exact ⟨[], piece, pieces, rfl, hblank, by simp⟩
    · rintro ⟨before, run, after, hpieces, hblank, rfl⟩
      cases before with
      | nil =>
        obtain ⟨rfl, rfl⟩ := List.cons.inj hpieces
        simp [hblank]
      | cons first before =>
        obtain ⟨rfl, rfl⟩ := List.cons.inj hpieces
        have hcolumn : column + (piece :: before).flatten.length =
            column + piece.length + before.flatten.length := by
          rw [List.flatten_cons, List.length_append, Nat.add_assoc]
        have htail : _ ∈ placed line (column + piece.length) (before ++ run :: after) :=
          ih.mpr ⟨before, run, after, rfl, hblank, by rw [hcolumn]⟩
        split
        · exact htail
        · exact List.mem_cons_of_mem _ htail

/-! ## Section 4: Places -/

/-- A token ends before another one begins. -/
def Precedes (t u : Token) : Prop :=
  t.loc.line < u.loc.line ∨ t.loc.line = u.loc.line ∧ t.loc.column + t.text.length ≤ u.loc.column

/-- A token follows another one immediately. -/
def Meets (t u : Token) : Prop :=
  t.loc.line = u.loc.line ∧ t.loc.column + t.text.length = u.loc.column

/-- The character at a place belongs to a token. -/
def Covers (t : Token) (loc : Location) : Prop :=
  t.loc.line = loc.line ∧ t.loc.column ≤ loc.column ∧ loc.column < t.loc.column + t.text.length

/-- Tokens in the order of a text: the one ends before the other begins, and where nothing is between
them, the first character of the other does not extend the one. -/
structure Follows (t u : Token) : Prop where
  precedes : t.Precedes u
  ends : t.Meets u → Ends t.text.toList u.text.toList

theorem pairwise_placed {line column : Nat} {pieces : List (List Char)}
    (hne : ∀ piece ∈ pieces, piece ≠ []) (hchain : pieces.IsChain Ends) :
    (placed line column pieces).Pairwise Follows := by
  induction pieces generalizing column with
  | nil => exact .nil
  | cons piece pieces ih =>
    have htail : (placed line (column + piece.length) pieces).Pairwise Follows :=
      ih (fun next hnext => hne next (List.mem_cons_of_mem _ hnext)) hchain.tail
    rw [placed_cons]
    split
    · exact htail
    · refine .cons (fun u hu => ?_) htail
      obtain ⟨before, run, after, rfl, -, rfl⟩ := mem_placed.mp hu
      refine ⟨.inr ⟨rfl, by simp [Nat.add_assoc]⟩, fun hmeets => ?_⟩
      -- Nothing is between them, so that no run is, because no run is empty.
      have hbefore : before = [] := by
        have hcolumn := hmeets.2
        simp only [String.length_ofList] at hcolumn
        have hempty : before.flatten = [] := List.length_eq_zero_iff.mp (by omega)
        refine List.eq_nil_iff_forall_not_mem.mpr fun next hnext => ?_
        exact hne next (by simp [hnext]) (List.flatten_eq_nil_iff.mp hempty next hnext)
      subst hbefore
      have hends : Ends piece run := List.isChain_cons_cons.mp hchain |>.1
      simpa using hends

theorem follows_lexLine (number : Nat) (cs : List Char) : (lexLine number cs).Pairwise Follows := by
  rw [lexLine_eq_placed]
  exact pairwise_placed (fun run hrun => (piece_of_mem_runs run hrun).ne_nil) (isChain_runs cs)

theorem lexeme_of_mem_lexLine {number : Nat} {cs : List Char} {t : Token}
    (ht : t ∈ lexLine number cs) : Lexeme t.text.toList := by
  rw [lexLine_eq_placed] at ht
  obtain ⟨before, run, after, hruns, hblank, rfl⟩ := mem_placed.mp ht
  have hrun : run ∈ runs cs := by simp [hruns]
  rw [String.toList_ofList]
  exact (piece_of_mem_runs run hrun).lexeme hblank

/-- A character of some pieces put together is a character of one of them. -/
theorem exists_of_getElem?_flatten {pieces : List (List Char)} {k : Nat} {c : Char}
    (h : pieces.flatten[k]? = some c) :
    ∃ before run after, pieces = before ++ run :: after ∧ before.flatten.length ≤ k ∧
      run[k - before.flatten.length]? = some c := by
  induction pieces generalizing k with
  | nil => cases h
  | cons piece pieces ih =>
    rw [List.flatten_cons] at h
    -- The character is in the first piece, or in the others after its length has been taken off.
    by_cases hk : k < piece.length
    · rw [List.getElem?_append_left hk] at h
      exact ⟨[], piece, pieces, rfl, Nat.zero_le _, h⟩
    · rw [List.getElem?_append_right (Nat.le_of_not_lt hk)] at h
      obtain ⟨before, run, after, rfl, hle, hrun⟩ := ih h
      refine ⟨piece :: before, run, after, rfl, ?_, ?_⟩
      · rw [List.flatten_cons, List.length_append]
        omega
      · rw [List.flatten_cons, List.length_append, ← Nat.sub_sub]
        exact hrun

/-- Every character of a line that is not blank belongs to one of its tokens. -/
theorem exists_covers_lexLine {cs : List Char} {k : Nat} {c : Char} (hc : cs[k]? = some c)
    (hblank : isBlank c = false) (number : Nat) :
    ∃ t ∈ lexLine number cs, t.Covers ⟨number, k + 1⟩ := by
  rw [← flatten_runs cs] at hc
  obtain ⟨before, run, after, hruns, hle, hrun⟩ := exists_of_getElem?_flatten hc
  have hnot : isBlankText run = false := by
    rw [Bool.eq_false_iff]
    intro hall
    rw [List.all_eq_true.mp hall c (List.mem_of_getElem? hrun)] at hblank
    cases hblank
  rw [lexLine_eq_placed]
  refine ⟨_, mem_placed.mpr ⟨before, run, after, hruns, hnot, rfl⟩, rfl, ?_, ?_⟩
  · show 1 + before.flatten.length ≤ k + 1
    omega
  · have hlt : k - before.flatten.length < run.length := (List.getElem?_eq_some_iff.mp hrun).1
    simp only [String.length_ofList]
    omega

/-! ## Section 5: The tokens of a text -/

theorem exists_mem_of_mem_lex {text : String} {t : Token} (h : t ∈ lex text) :
    ∃ numbered ∈ Text.numberedLines text, t ∈ lexLine numbered.1 numbered.2 :=
  List.mem_flatMap.mp h

/-- Every token of a text stands in it where it says. -/
theorem standsIn_of_mem_lex {text : String} {t : Token} (h : t ∈ lex text) : t.StandsIn text := by
  obtain ⟨numbered, hnumbered, ht⟩ := exists_mem_of_mem_lex h
  have hstands := standsOn_of_mem_lexLine ht
  obtain ⟨hpos, hline⟩ := getElem?_of_mem_numberFrom hnumbered
  rw [← hstands.line] at hpos hline
  exact ⟨hpos, hstands.column, hstands.nonempty, numbered.2, hline, hstands.text⟩

theorem lexeme_of_mem_lex {text : String} {t : Token} (h : t ∈ lex text) : Lexeme t.text.toList := by
  obtain ⟨numbered, -, ht⟩ := exists_mem_of_mem_lex h
  exact lexeme_of_mem_lexLine ht

theorem pairwise_numberFrom (first : Nat) (lines : List (List Char)) :
    (Text.numberFrom first lines).Pairwise fun l m => l.1 < m.1 := by
  induction lines generalizing first with
  | nil => exact .nil
  | cons line lines ih =>
    refine .cons (fun numbered hnumbered => ?_) (ih (first + 1))
    exact (getElem?_of_mem_numberFrom hnumbered).1

theorem mem_numberFrom {lines : List (List Char)} {k : Nat} {line : List Char}
    (h : lines[k]? = some line) (first : Nat) : (first + k, line) ∈ Text.numberFrom first lines := by
  have hk : (Text.numberFrom first lines)[k]? = some (first + k, line) := by
    rw [Text.getElem?_numberFrom, h]
    rfl
  exact List.mem_of_getElem? hk

/-- The tokens of a text are in its order, and none of them could have been any longer. -/
theorem follows_lex (text : String) : (lex text).Pairwise Follows := by
  unfold lex lexLines
  rw [List.pairwise_flatMap]
  refine ⟨fun numbered _ => follows_lexLine numbered.1 numbered.2, ?_⟩
  refine (pairwise_numberFrom 1 (Text.lines text)).imp fun {l m} hlt t ht u hu => ?_
  have hlines : t.loc.line < u.loc.line := by
    rw [(standsOn_of_mem_lexLine ht).line, (standsOn_of_mem_lexLine hu).line]
    exact hlt
  exact ⟨.inl hlines, fun hmeets => absurd hmeets.1 (Nat.ne_of_lt hlines)⟩

/-- Tokens that are in order do not have a character in common. -/
theorem Precedes.not_covers {t u : Token} (h : t.Precedes u) {loc : Location} (ht : t.Covers loc) :
    ¬ u.Covers loc := by
  obtain ⟨htline, htfrom, htto⟩ := ht
  rintro ⟨huline, hufrom, huto⟩
  rcases h with hlt | ⟨-, hle⟩ <;> omega

/-- A character belongs to one token at most. -/
theorem eq_of_covers {ts : List Token} (hts : ts.Pairwise Follows) {loc : Location} {t u : Token}
    (ht : t ∈ ts) (hu : u ∈ ts) (htloc : t.Covers loc) (huloc : u.Covers loc) : t = u := by
  have hsame : ts.Pairwise fun t u => t.Covers loc → u.Covers loc → t = u :=
    hts.imp fun h ht hu => absurd hu (h.precedes.not_covers ht)
  have hflip : ts.Pairwise (flip fun t u => t.Covers loc → u.Covers loc → t = u) :=
    hsame.imp fun h hu ht => (h ht hu).symm
  exact hsame.forall_of_forall_of_flip (fun _ _ _ _ => rfl) hflip ht hu htloc huloc

/-- The tokens of a text cover it. Each token stands where it says and is a lexeme, so that it has no
blank in it. The tokens are in the order of the text and do not overlap, and where one follows another
immediately, it does not begin with a character that extends the one before. And every character that
is not blank belongs to exactly one of them. -/
theorem lex_covers_text (text : String) :
    (∀ t ∈ lex text, t.StandsIn text ∧ Lexeme t.text.toList ∧
      ∀ c ∈ t.text.toList, isBlank c = false) ∧
    (lex text).Pairwise Follows ∧
    ∀ (l k : Nat) (chars : List Char) (c : Char), (Text.lines text)[l]? = some chars →
      chars[k]? = some c → isBlank c = false → ∃! t, t ∈ lex text ∧ t.Covers ⟨l + 1, k + 1⟩ := by
  refine ⟨fun t ht => ?_, follows_lex text, fun l k line c hline hc hblank => ?_⟩
  · exact ⟨standsIn_of_mem_lex ht, lexeme_of_mem_lex ht, (lexeme_of_mem_lex ht).isBlank_eq_false⟩
  · -- There is a token that covers the character, and no other one does, since they do not overlap.
    obtain ⟨t, ht, hcovers⟩ := exists_covers_lexLine hc hblank (1 + l)
    rw [Nat.add_comm] at ht hcovers
    have hmem : t ∈ lex text := by
      refine List.mem_flatMap.mpr ⟨(l + 1, line), ?_, ht⟩
      rw [Nat.add_comm]
      exact mem_numberFrom hline 1
    exact ⟨t, ⟨hmem, hcovers⟩, fun u hu => eq_of_covers (follows_lex text) hu.1 hmem hu.2 hcovers⟩

/-- A shift operator with an equals sign right behind it, and a second line that begins with a wide
blank. -/
def shiftThenEquals : String :=
  "x<<=y\n\u3000if 12"

theorem lex_shiftThenEquals :
    lex shiftThenEquals = [⟨"x", ⟨1, 1⟩⟩, ⟨"<<", ⟨1, 2⟩⟩, ⟨"=", ⟨1, 4⟩⟩, ⟨"y", ⟨1, 5⟩⟩, ⟨"if", ⟨2, 2⟩⟩,
      ⟨"12", ⟨2, 5⟩⟩] := by
  decide +kernel

/-- The shift operator stands in the first line, and the equals sign does not extend it. The second
digit belongs to the numeral only. -/
theorem lex_covers_text_shiftThenEquals :
    (⟨"<<", ⟨1, 2⟩⟩ : Token).StandsIn shiftThenEquals ∧
      Ends "<<".toList "=".toList ∧
      ∃! t, t ∈ lex shiftThenEquals ∧ t.Covers ⟨2, 6⟩ := by
  obtain ⟨htokens, hfollows, hcovers⟩ := lex_covers_text shiftThenEquals
  refine ⟨(htokens _ (by rw [lex_shiftThenEquals]; simp)).1, ?_, ?_⟩
  · rw [lex_shiftThenEquals, List.pairwise_cons, List.pairwise_cons] at hfollows
    exact (hfollows.2.1 ⟨"=", ⟨1, 4⟩⟩ (by simp)).ends ⟨rfl, rfl⟩
  · have hline : (Text.lines shiftThenEquals)[1]? = some "\u3000if 12".toList := by decide +kernel
    exact hcovers 1 5 _ '2' hline (by decide) (by decide)

end Stepwise.Token
