import Mathlib.Data.List.TakeWhile
import Stepwise.Proofs.Decimals
import Stepwise.Session

/-!
# How raw inputs are divided

A raw input is a list of words with blanks before, between and after them, and what becomes of it can be
told from its words. If the first one is a count and as many words after it are integers, then these are
the integers, and the program begins after the next line break. Otherwise the first word that is missing
or not what it should be is reported, with the line of the last word that was read.

The cursor that reads the words only ever stands right after a word, so what is left always begins with a
blank, and the line that is counted is that of the word before.

## Main results

* `Header.exists_words`: every text is words and blanks.
* `Header.readInputs_append`: reading integers goes on behind those that have been read.
* `Header.split_eq_iff`: what comes of a raw input.
* `Header.split_header`: a header can be written with any blanks and with anything after it on its line.
* `Header.division_is_exact`: all of this, and what it means for whole sessions.
-/

namespace Stepwise.Header

open Text (isBlank isBlankText)

/-! ## Section 1: Words and blanks -/

/-- A word of a text and the blanks before it. -/
structure Word where
  /-- The blanks between the word before, or the beginning of the text, and this one. -/
  gap : List Char
  /-- The characters of the word. -/
  chars : List Char
deriving DecidableEq, Repr

/-- What words and the blanks before them are written as. -/
def written (words : List Word) : List Char :=
  words.flatMap fun word => word.gap ++ word.chars

/-- Whether a word is what it should be: not empty, without blanks, and with nothing but blanks before
it. -/
structure Word.Sound (word : Word) : Prop where
  gap : isBlankText word.gap = true
  ne_nil : word.chars ≠ []
  chars : ∀ c ∈ word.chars, isBlank c = false

/-- Words that are not written together: there is a blank between any two of them. -/
structure Apart (words : List Word) : Prop where
  sound : ∀ word ∈ words, word.Sound
  between : ∀ word ∈ words.tail, word.gap ≠ []

/-- Whether a text is empty or begins with a blank, as what follows a word does. -/
def Breaks (cs : List Char) : Prop :=
  ∀ c ∈ cs.head?, isBlank c = true

theorem sound_iff (word : Word) :
    word.Sound ↔ (isBlankText word.gap && !word.chars.isEmpty && word.chars.all (!isBlank ·)) = true := by
  constructor
  · rintro ⟨hgap, hne, hchars⟩
    simpa [hgap, hne] using hchars
  · intro h
    simp only [Bool.and_eq_true, Bool.not_eq_true', List.isEmpty_eq_false_iff, List.all_eq_true] at h
    exact ⟨h.1.1, h.1.2, h.2⟩

instance (word : Word) : Decidable word.Sound :=
  decidable_of_iff' _ (sound_iff word)

theorem apart_iff (words : List Word) :
    Apart words ↔ (∀ word ∈ words, word.Sound) ∧ ∀ word ∈ words.tail, word.gap ≠ [] := by
  constructor
  · exact fun h => ⟨h.sound, h.between⟩
  · exact fun ⟨hsound, hgap⟩ => ⟨hsound, hgap⟩

instance (words : List Word) : Decidable (Apart words) :=
  decidable_of_iff' _ (apart_iff words)

theorem breaks_iff (cs : List Char) : Breaks cs ↔ cs.head?.all isBlank = true := by
  cases cs with
  | nil => simp [Breaks]
  | cons c cs => simp [Breaks]

instance (cs : List Char) : Decidable (Breaks cs) :=
  decidable_of_iff' _ (breaks_iff cs)

variable {words xs ys inputs : List Word} {word first : Word} {cs tail last : List Char}
  {values : List Int32}

theorem written_cons (word : Word) (words : List Word) :
    written (word :: words) = word.gap ++ (word.chars ++ written words) := by
  simp [written]

theorem written_append (xs ys : List Word) : written (xs ++ ys) = written xs ++ written ys :=
  List.flatMap_append

theorem breaks_of_isBlankText (h : isBlankText cs = true) : Breaks cs :=
  fun c hc => List.all_eq_true.mp h c (List.mem_of_mem_head? hc)

theorem breaks_append (h : cs ≠ []) (hcs : isBlankText cs = true) (tail : List Char) :
    Breaks (cs ++ tail) := by
  obtain ⟨c, cs, rfl⟩ := List.exists_cons_of_ne_nil h
  intro d hd
  exact breaks_of_isBlankText hcs d hd

/-- Words behind a blank, and behind each other, begin with a blank. -/
theorem breaks_written (hsound : ∀ word ∈ words, word.Sound) (hgap : ∀ word ∈ words, word.gap ≠ [])
    (htail : Breaks tail) : Breaks (written words ++ tail) := by
  cases words with
  | nil => exact htail
  | cons word words =>
    rw [written_cons, List.append_assoc]
    exact breaks_append (hgap word List.mem_cons_self) (hsound word List.mem_cons_self).gap _

/-- A word that begins with a blank has one before it. -/
theorem gap_ne_nil_of_breaks (hsound : word.Sound) (h : Breaks (written (word :: words) ++ tail)) :
    word.gap ≠ [] := by
  intro hgap
  obtain ⟨c, cs, hchars⟩ := List.exists_cons_of_ne_nil hsound.ne_nil
  have hc : isBlank c = true := h c (by simp [written_cons, hgap, hchars])
  rw [hsound.chars c (by simp [hchars])] at hc
  cases hc

namespace Apart

theorem nil : Apart [] := by
  constructor
  · rintro word ⟨⟩
  · rintro word ⟨⟩

theorem cons (hword : word.Sound) (hgap : ∀ next ∈ words.head?, next.gap ≠ []) (h : Apart words) :
    Apart (word :: words) := by
  constructor
  · exact List.forall_mem_cons.mpr ⟨hword, h.sound⟩
  · intro next hnext
    cases words with
    | nil => cases hnext
    | cons head words =>
      rcases List.mem_cons.mp hnext with rfl | hmore
      · exact hgap _ rfl
      · exact h.between next hmore

/-- The first of some words that are apart. -/
theorem front (h : Apart (first :: (xs ++ ys))) : Apart (first :: xs) := by
  constructor
  · intro word hword
    rcases List.mem_cons.mp hword with rfl | hmem
    · exact h.sound word List.mem_cons_self
    · apply h.sound
      exact List.mem_cons_of_mem _ (List.mem_append_left ys hmem)
  · intro word hword
    exact h.between word (List.mem_append_left ys hword)

theorem sound_back (h : Apart (first :: (xs ++ ys))) : ∀ word ∈ ys, word.Sound :=
  fun word hword => h.sound word (List.mem_cons_of_mem _ (List.mem_append_right xs hword))

theorem gap_back (h : Apart (first :: (xs ++ ys))) : ∀ word ∈ ys, word.gap ≠ [] :=
  fun word hword => h.between word (List.mem_append_right xs hword)

end Apart

/-- A text is nothing but blanks, or it begins with a word, and what follows that begins with a blank. -/
theorem blank_or_exists_word (cs : List Char) :
    isBlankText cs = true ∨
      ∃ word : Word, ∃ more, word.Sound ∧ Breaks more ∧ cs = word.gap ++ (word.chars ++ more) := by
  have hgap : isBlankText (cs.takeWhile isBlank) = true :=
    List.all_eq_true.mpr fun c hc => List.mem_takeWhile_imp hc
  have hcs := List.takeWhile_append_dropWhile (p := isBlank) (l := cs)
  cases hrest : cs.dropWhile isBlank with
  | nil =>
    rw [hrest, List.append_nil] at hcs
    exact .inl (hcs ▸ hgap)
  | cons c rest =>
    -- A word begins here. It reaches up to the next blank, and the rest of the text begins with that.
    have hc : isBlank c = false := by
      have hhead := List.head?_dropWhile_not isBlank cs
      rw [hrest] at hhead
      simpa using hhead
    refine .inr ⟨⟨cs.takeWhile isBlank, (c :: rest).takeWhile (!isBlank ·)⟩,
      (c :: rest).dropWhile (!isBlank ·), ⟨hgap, ?_, ?_⟩, ?_, ?_⟩
    · simp [hc]
    · intro d hd
      simpa using List.mem_takeWhile_imp hd
    · intro d hd
      have hhead := List.head?_dropWhile_not (!isBlank ·) (c :: rest)
      rw [Option.mem_def.mp hd] at hhead
      simpa using hhead
    · rw [List.takeWhile_append_dropWhile, ← hrest]
      exact hcs.symm

/-- Every text is words and blanks. -/
theorem exists_words (cs : List Char) :
    ∃ words last, Apart words ∧ isBlankText last = true ∧ cs = written words ++ last := by
  -- What follows the first word is shorter, and the word after that begins with a blank.
  induction hlength : cs.length using Nat.strongRecOn generalizing cs with
  | ind length ih =>
    rcases blank_or_exists_word cs with hblank | ⟨word, more, hword, hbreaks, rfl⟩
    · exact ⟨[], cs, .nil, hblank, rfl⟩
    · have hshorter : more.length < length := by
        have hpos := List.length_pos_iff.mpr hword.ne_nil
        simp only [List.length_append] at hlength
        omega
      obtain ⟨words, last, hapart, hlast, rfl⟩ := ih _ hshorter more rfl
      refine ⟨word :: words, last, .cons hword ?_ hapart, hlast, ?_⟩
      · intro next hnext
        obtain ⟨words, rfl⟩ := List.head?_eq_some_iff.mp hnext
        exact gap_ne_nil_of_breaks (hapart.sound next List.mem_cons_self) hbreaks
      · rw [written_cons, List.append_assoc, List.append_assoc]

/-! ## Section 2: The cursor -/

theorem newlines_append (cs ds : List Char) : newlines (cs ++ ds) = newlines cs + newlines ds :=
  List.count_append

/-- There is no line break in a word. -/
theorem Word.Sound.newlines_chars (h : word.Sound) : newlines word.chars = 0 := by
  apply List.count_eq_zero.mpr
  intro hmem
  have hblank := h.chars '\n' hmem
  rw [Text.isBlank_newline] at hblank
  cases hblank

/-- The cursor takes the next word, and then it stands right after that. -/
theorem word?_of_sound (h : word.Sound) (htail : Breaks tail) (line : Nat) :
    Cursor.word? ⟨word.gap ++ (word.chars ++ tail), line⟩ =
      some (word.chars, ⟨tail, line + newlines word.gap⟩) := by
  obtain ⟨gap, chars⟩ := word
  obtain ⟨hgap, hne, hchars⟩ := h
  obtain ⟨c, chars, rfl⟩ := List.exists_cons_of_ne_nil hne
  dsimp only at hgap hchars ⊢
  have hc : isBlank c = false := hchars c List.mem_cons_self
  have hnot : ∀ d ∈ c :: chars, (!isBlank d) = true := by simpa using hchars
  -- The word does not begin with a blank, and what follows it does.
  have htake : tail.takeWhile (!isBlank ·) = [] ∧ tail.dropWhile (!isBlank ·) = tail := by
    cases tail with
    | nil => exact ⟨rfl, rfl⟩
    | cons d tail =>
      have hd : isBlank d = true := htail d rfl
      simp [hd]
  have hafter : (gap ++ (c :: chars ++ tail)).dropWhile isBlank = c :: chars ++ tail := by
    rw [List.dropWhile_append_of_pos (List.all_eq_true.mp hgap)]
    simp [hc]
  have hbefore : (gap ++ (c :: chars ++ tail)).takeWhile isBlank = gap := by
    rw [List.takeWhile_append_of_pos (List.all_eq_true.mp hgap)]
    simp [hc]
  have hword : (c :: chars ++ tail).takeWhile (!isBlank ·) = c :: chars := by
    rw [List.takeWhile_append_of_pos hnot, htake.1, List.append_nil]
  have hrest : (c :: chars ++ tail).dropWhile (!isBlank ·) = tail := by
    rw [List.dropWhile_append_of_pos hnot, htake.2]
  simp only [Cursor.word?, hafter, hbefore]
  show some ((c :: chars ++ tail).takeWhile (!isBlank ·),
    (⟨(c :: chars ++ tail).dropWhile (!isBlank ·), line + newlines gap⟩ : Cursor)) = _
  rw [hword, hrest]

theorem word?_of_blank (h : isBlankText cs = true) (line : Nat) :
    Cursor.word? ⟨cs, line⟩ = none := by
  have hnil : cs.dropWhile isBlank = [] := List.dropWhile_eq_nil_iff.mpr (List.all_eq_true.mp h)
  simp [Cursor.word?, hnil]

/-- Whether words are read as these integers. -/
def Reads (inputs : List Word) (values : List Int32) : Prop :=
  inputs.map (fun word => Text.int32? word.chars) = values.map some

instance (inputs : List Word) (values : List Int32) : Decidable (Reads inputs values) :=
  inferInstanceAs (Decidable (_ = _))

theorem Reads.length_eq (h : Reads inputs values) : inputs.length = values.length := by
  simpa using congrArg List.length h

/-- Reading integers goes on behind those that have been read. -/
theorem readInputs_append (hsound : ∀ word ∈ inputs, word.Sound)
    (hgap : ∀ word ∈ inputs, word.gap ≠ [])
    (hvalues : Reads inputs values) (htail : Breaks tail) (index : Nat) (read : List Int32) (line due : Nat) :
    readInputs index read ⟨written inputs ++ tail, line⟩ (inputs.length + due) =
      readInputs (index + inputs.length) (values.reverse ++ read)
        ⟨tail, line + newlines (written inputs)⟩ due := by
  induction inputs generalizing values index read line with
  | nil =>
    obtain rfl : values = [] := List.map_eq_nil_iff.mp hvalues.symm
    simp [written, newlines]
  | cons word inputs ih =>
    cases values with
    | nil => cases hvalues
    | cons value values =>
      obtain ⟨hvalue, hvalues⟩ := List.cons.inj hvalues
      dsimp only at hvalue
      obtain ⟨hword, hsound⟩ := List.forall_mem_cons.mp hsound
      obtain ⟨-, hgap⟩ := List.forall_mem_cons.mp hgap
      -- After one word there is one integer less to read, and only the gap has line breaks in it.
      have hdue : (word :: inputs).length + due = inputs.length + due + 1 := by
        rw [List.length_cons]
        omega
      have hline : line + newlines (written (word :: inputs)) =
          line + newlines word.gap + newlines (written inputs) := by
        rw [written_cons, newlines_append, newlines_append, hword.newlines_chars]
        omega
      rw [hdue, hline, written_cons, List.append_assoc, List.append_assoc, readInputs,
        word?_of_sound hword (breaks_written hsound hgap htail)]
      dsimp only
      rw [hvalue]
      dsimp only
      rw [ih hsound hgap hvalues, List.length_cons, List.reverse_cons, List.append_assoc,
        Nat.add_right_comm index, Nat.add_assoc index]
      rfl

/-! ## Section 3: What comes of a raw input -/

/-- The line of the last one of these words, or the first line if there are none. -/
def lineOf (words : List Word) : Nat :=
  newlines (written words) + 1

/-- The first one of these words, if there are any. -/
def found (words : List Word) : Option String :=
  words.head?.map fun word => String.ofList word.chars

/-- What a text has after its first line break, and nothing if there is none in it. -/
inductive AfterBreak : List Char → List Char → Prop where
  | found {line : List Char} (program : List Char) (h : '\n' ∉ line) :
      AfterBreak (line ++ '\n' :: program) program
  | none {line : List Char} (h : '\n' ∉ line) : AfterBreak line []

/-- What comes of a raw input with these words and these blanks at its end. -/
inductive Division (words : List Word) (last : List Char) : Except HeaderFault Header → Prop where
  /-- There is no count. -/
  | badCount (hcount : ∀ word ∈ words.head?, Text.natural? countBound word.chars = none) :
      Division words last (.error (.badCount (found words) (lineOf (words.take 1))))
  /-- There is no memory for so many integers. -/
  | hugeCount {first : Word} {rest : List Word} {count : Nat} (hwords : words = first :: rest)
      (hcount : Text.natural? countBound first.chars = some count) (hhuge : capacityBound ≤ count) :
      Division words last (.error (.hugeCount count))
  /-- After fewer integers than announced there is a word that is none, or no word. -/
  | badInput {first : Word} {inputs rest : List Word} {values : List Int32} {count : Nat}
      (hwords : words = first :: (inputs ++ rest))
      (hcount : Text.natural? countBound first.chars = some count) (hcapacity : count < capacityBound)
      (hvalues : Reads inputs values) (hless : inputs.length < count)
      (hnext : ∀ word ∈ rest.head?, Text.int32? word.chars = none) :
      Division words last (.error (.badInput (inputs.length + 1) (found rest)
        (lineOf (first :: (inputs ++ rest.take 1)))))
  /-- There are as many integers as announced. -/
  | divided {first : Word} {inputs rest : List Word} {values : List Int32} {program : String}
      (hwords : words = first :: (inputs ++ rest))
      (hcount : Text.natural? countBound first.chars = some inputs.length)
      (hcapacity : inputs.length < capacityBound) (hvalues : Reads inputs values)
      (hprogram : AfterBreak (written rest ++ last) program.toList) :
      Division words last (.ok ⟨values, program⟩)

theorem AfterBreak.nextLines_eq {program : List Char} (h : AfterBreak cs program) (line : Nat) :
    Cursor.nextLines ⟨cs, line⟩ = program := by
  have hpass {ds : List Char} (hds : '\n' ∉ ds) : ∀ c ∈ ds, (c != '\n') = true := by
    intro c hc
    simpa using fun heq : c = '\n' => hds (heq ▸ hc)
  cases h with
  | found program h =>
    rw [Cursor.nextLines, List.dropWhile_append_of_pos (hpass h)]
    rfl
  | none h =>
    rw [Cursor.nextLines, List.dropWhile_eq_nil_iff.mpr (hpass h)]
    rfl

theorem exists_afterBreak (cs : List Char) : ∃ program, AfterBreak cs program := by
  by_cases h : '\n' ∈ cs
  · obtain ⟨line, program, rfl, hline⟩ := List.eq_append_cons_of_mem h
    exact ⟨program, .found program hline⟩
  · exact ⟨[], .none h⟩

theorem lineOf_append (xs ys : List Word) :
    lineOf (xs ++ ys) = lineOf xs + newlines (written ys) := by
  rw [lineOf, lineOf, written_append, newlines_append]
  omega

/-- The first word is read, and with it comes its line. -/
theorem word?_first (h : Apart (first :: words)) (htail : Breaks tail) :
    Cursor.word? ⟨written (first :: words) ++ tail, 1⟩ =
      some (first.chars, ⟨written words ++ tail, lineOf [first]⟩) := by
  obtain ⟨hfirst, hsound⟩ := List.forall_mem_cons.mp h.sound
  have hbreaks : Breaks (written words ++ tail) := breaks_written hsound h.between htail
  have hline : lineOf [first] = 1 + newlines first.gap := by
    rw [lineOf, written_cons, newlines_append, newlines_append, hfirst.newlines_chars, Nat.add_comm]
    rfl
  rw [written_cons, List.append_assoc, List.append_assoc, word?_of_sound hfirst hbreaks, hline]

/-- Behind a count and the first integers, what is left is read. -/
theorem split_written {due : Nat} (h : Apart (first :: inputs))
    (hcount : Text.natural? countBound first.chars = some (inputs.length + due))
    (hcapacity : inputs.length + due < capacityBound) (hvalues : Reads inputs values)
    (htail : Breaks tail) :
    split (String.ofList (written (first :: inputs) ++ tail)) =
      (readInputs (inputs.length + 1) values.reverse ⟨tail, lineOf (first :: inputs)⟩ due).map
        fun read => ⟨read.1, String.ofList read.2.nextLines⟩ := by
  have hsound := (List.forall_mem_cons.mp h.sound).2
  have hread := readInputs_append hsound h.between hvalues htail 1 [] (lineOf [first]) due
  rw [List.append_nil, Nat.add_comm 1 inputs.length, ← lineOf_append, List.singleton_append] at hread
  rw [split, String.toList_ofList, word?_first h htail]
  dsimp only
  rw [hcount]
  dsimp only
  rw [if_pos hcapacity, hread]
  cases readInputs (inputs.length + 1) values.reverse ⟨tail, lineOf (first :: inputs)⟩ due <;> rfl

/-- Behind a count and as many integers, the program begins after the next line break. -/
theorem split_of_afterBreak {program : String} (h : Apart (first :: inputs))
    (hcount : Text.natural? countBound first.chars = some inputs.length)
    (hcapacity : inputs.length < capacityBound) (hvalues : Reads inputs values)
    (htail : Breaks tail) (hprogram : AfterBreak tail program.toList) :
    split (String.ofList (written (first :: inputs) ++ tail)) = .ok ⟨values, program⟩ := by
  rw [← Nat.add_zero inputs.length] at hcount hcapacity
  rw [split_written h hcount hcapacity hvalues htail, readInputs, Except.map, hprogram.nextLines_eq, List.reverse_reverse,
    String.ofList_toList]

/-- A word that is no integer is reported, and so is that there is none. -/
theorem readInputs_of_next (hsound : ∀ word ∈ words, word.Sound) (hgap : ∀ word ∈ words, word.gap ≠ [])
    (hlast : isBlankText last = true) (hnext : ∀ word ∈ words.head?, Text.int32? word.chars = none)
    (index : Nat) (read : List Int32) (line due : Nat) :
    readInputs index read ⟨written words ++ last, line⟩ (due + 1) =
      .error (.badInput index (found words) (line + newlines (written (words.take 1)))) := by
  cases words with
  | nil =>
    have hnone : Cursor.word? ⟨written [] ++ last, line⟩ = none := word?_of_blank hlast line
    rw [readInputs, hnone]
    rfl
  | cons word words =>
    obtain ⟨hword, hsound⟩ := List.forall_mem_cons.mp hsound
    obtain ⟨-, hgap⟩ := List.forall_mem_cons.mp hgap
    have hbreaks := breaks_written hsound hgap (breaks_of_isBlankText hlast)
    have hline : newlines (written [word]) = newlines word.gap := by
      rw [written_cons, newlines_append, newlines_append, hword.newlines_chars]
      rfl
    rw [readInputs, written_cons, List.append_assoc, List.append_assoc, word?_of_sound hword hbreaks]
    dsimp only
    rw [hnext word rfl, List.take_succ_cons, List.take_zero, hline]
    rfl

/-- As many words are integers as are announced, or the next one is not. -/
theorem exists_inputs (count : Nat) (words : List Word) :
    ∃ inputs rest values, words = inputs ++ rest ∧ Reads inputs values ∧ inputs.length ≤ count ∧
      (inputs.length < count → ∀ word ∈ rest.head?, Text.int32? word.chars = none) := by
  induction count generalizing words with
  | zero => exact ⟨[], words, [], rfl, rfl, Nat.le_refl 0, fun h => absurd h (Nat.lt_irrefl 0)⟩
  | succ count ih =>
    cases words with
    | nil => exact ⟨[], [], [], rfl, rfl, Nat.zero_le _, by rintro - word ⟨⟩⟩
    | cons word words =>
      cases hvalue : Text.int32? word.chars with
      | none =>
        refine ⟨[], word :: words, [], rfl, rfl, Nat.zero_le _, ?_⟩
        rintro - _ ⟨⟩
        exact hvalue
      | some value =>
        obtain ⟨inputs, rest, values, rfl, hvalues, hle, hnext⟩ := ih words
        refine ⟨word :: inputs, rest, value :: values, rfl, ?_, Nat.succ_le_succ hle, ?_⟩
        · exact List.cons_eq_cons.mpr ⟨hvalue, hvalues⟩
        · exact fun hless => hnext (Nat.lt_of_succ_lt_succ hless)

/-- Something comes of every raw input. -/
theorem exists_division (words : List Word) (last : List Char) :
    ∃ result, Division words last result := by
  cases words with
  | nil => exact ⟨_, .badCount (by rintro word ⟨⟩)⟩
  | cons first more =>
    cases hcount : Text.natural? countBound first.chars with
    | none =>
      refine ⟨_, .badCount ?_⟩
      rintro _ ⟨⟩
      exact hcount
    | some count =>
      -- If there is memory, then the words behind the count are read until one of them is no integer.
      rcases Nat.lt_or_ge count capacityBound with hcapacity | hhuge
      · obtain ⟨inputs, rest, values, rfl, hvalues, hle, hnext⟩ := exists_inputs count more
        rcases Nat.lt_or_eq_of_le hle with hless | rfl
        · exact ⟨_, .badInput rfl hcount hcapacity hvalues hless (hnext hless)⟩
        · obtain ⟨program, hprogram⟩ := exists_afterBreak (written rest ++ last)
          rw [← String.toList_ofList (l := program)] at hprogram
          exact ⟨_, .divided rfl hcount hcapacity hvalues hprogram⟩
      · exact ⟨_, .hugeCount rfl hcount hhuge⟩

/-- What the words of a raw input are is all that its division depends on. -/
theorem split_of_division {result : Except HeaderFault Header} (h : Apart words)
    (hlast : isBlankText last = true) (hdivision : Division words last result) :
    split (String.ofList (written words ++ last)) = result := by
  have hblank : Breaks last := breaks_of_isBlankText hlast
  cases hdivision with
  | badCount hcount =>
    cases words with
    | nil =>
      have hnone : Cursor.word? ⟨written [] ++ last, 1⟩ = none := word?_of_blank hlast 1
      rw [split, String.toList_ofList, hnone]
      rfl
    | cons first words =>
      rw [split, String.toList_ofList, word?_first h hblank]
      dsimp only
      rw [hcount first rfl]
      rfl
  | hugeCount hwords hcount hhuge =>
    subst hwords
    rw [split, String.toList_ofList, word?_first h hblank]
    dsimp only
    rw [hcount]
    dsimp only
    rw [if_neg (Nat.not_lt.mpr hhuge)]
  | @badInput first inputs rest values count hwords hcount hcapacity hvalues hless hnext =>
    subst hwords
    -- The integers that have been read are not yet all that were announced, so one more is due.
    obtain ⟨due, rfl⟩ := Nat.exists_eq_add_of_lt hless
    rw [Nat.add_assoc] at hcount hcapacity
    have hbreaks := breaks_written h.sound_back h.gap_back hblank
    rw [← List.cons_append, written_append, List.append_assoc,
      split_written h.front hcount hcapacity hvalues hbreaks,
      readInputs_of_next h.sound_back h.gap_back hlast hnext, ← lineOf_append]
    rfl
  | @divided first inputs rest values program hwords hcount hcapacity hvalues hprogram =>
    subst hwords
    have hbreaks := breaks_written h.sound_back h.gap_back hblank
    rw [← List.cons_append, written_append, List.append_assoc]
    exact split_of_afterBreak h.front hcount hcapacity hvalues hbreaks hprogram

/-- What comes of a raw input. -/
theorem split_eq_iff {result : Except HeaderFault Header} (h : Apart words)
    (hlast : isBlankText last = true) :
    split (String.ofList (written words ++ last)) = result ↔ Division words last result := by
  constructor
  · -- Something comes of the words, and it is what the text is divided into.
    rintro rfl
    obtain ⟨result, hresult⟩ := exists_division words last
    rw [split_of_division h hlast hresult]
    exact hresult
  · exact split_of_division h hlast

/-! ## Section 4: Written headers -/

/-- A header can be written with any blanks, anything can follow on its line, and then comes the
program. -/
theorem split_header {junk : List Char} (h : Apart (first :: inputs))
    (hcount : Text.natural? countBound first.chars = some values.length)
    (hcapacity : values.length < capacityBound) (hvalues : Reads inputs values)
    (hjunk : Breaks junk) (hline : '\n' ∉ junk) (program : String) :
    split (String.ofList (written (first :: inputs) ++ junk) ++ "\n" ++ program) =
      .ok ⟨values, program⟩ := by
  have htext : String.ofList (written (first :: inputs) ++ junk) ++ "\n" ++ program =
      String.ofList (written (first :: inputs) ++ (junk ++ '\n' :: program.toList)) := by
    rw [← String.toList_inj]
    simp
  -- The header ends at the line break if there is nothing after it on its line.
  have hbreaks : Breaks (junk ++ '\n' :: program.toList) := by
    cases junk with
    | nil =>
      rintro _ ⟨⟩
      exact Text.isBlank_newline
    | cons c junk => exact hjunk
  rw [← hvalues.length_eq] at hcount hcapacity
  rw [htext]
  exact split_of_afterBreak h hcount hcapacity hvalues hbreaks (.found program.toList hline)

/-- A raw input is divided exactly. Every text is words and blanks, and what comes of it is what its words
say. So a session on a header for some integers, however it is written and whatever follows on its line,
with a program behind it, is a session on the program with these integers. And for every number and all
integers there is such a header, since decimals are read as what they stand for. -/
theorem division_is_exact :
    (∀ text : String, ∃ words last, Apart words ∧ isBlankText last = true ∧
      text = String.ofList (written words ++ last)) ∧
    (∀ words last result, Apart words → isBlankText last = true →
      (split (String.ofList (written words ++ last)) = result ↔ Division words last result)) ∧
    (∀ first inputs values junk, Apart (first :: inputs) →
      Text.natural? countBound first.chars = some values.length → values.length < capacityBound →
      Reads inputs values → Breaks junk → '\n' ∉ junk → ∀ program limits logged,
        Session.executeInput (String.ofList (written (first :: inputs) ++ junk) ++ "\n" ++ program)
          limits logged = Session.executeLogged program values limits logged) ∧
    (∀ n < countBound, Text.natural? countBound (toString n).toList = some n) ∧
    ∀ value : Int32, Text.int32? (Text.decimal value).toList = some value := by
  refine ⟨?_, ?_, ?_, ?_, Text.int32?_decimal⟩
  · intro text
    obtain ⟨words, last, hapart, hlast, htext⟩ := exists_words text.toList
    refine ⟨words, last, hapart, hlast, ?_⟩
    rw [← htext, String.ofList_toList]
  · exact fun words last result hapart hlast => split_eq_iff hapart hlast
  · intro first inputs values junk hapart hcount hcapacity hvalues hjunk hline program limits logged
    rw [Session.executeInput, split_header hapart hcount hcapacity hvalues hjunk hline]
  · intro n hn
    rw [Nat.toString_eq_repr, Nat.toList_repr]
    exact Text.natural?_toDigits hn

/-- The words of a header for two integers, on lines of their own. -/
def spreadHeader : List Word :=
  [⟨['\u3000'], ['2']⟩, ⟨['\r', '\n'], ['+', '5']⟩, ⟨['\n', ' ', '\n'], ['-', '0', '7']⟩]

/-- With a text after the header on its line and a program that begins with digits, the session is one on
that program. Without the last word it is one that fails in the second line. -/
theorem division_is_exact_spreadHeader :
    Session.executeInput (String.ofList (written spreadHeader ++ "\t8 left\r".toList) ++ "\n" ++ "12 34")
        default true = Session.executeLogged "12 34" [5, -7] default true ∧
      split (String.ofList (written (spreadHeader.take 2) ++ [' ', '\n'])) =
        .error (.badInput 2 none 2) := by
  have hwhole : Apart spreadHeader := by decide
  have hfront : Apart (spreadHeader.take 2) := by decide
  refine ⟨?_, ?_⟩
  · exact division_is_exact.2.2.1 _ _ _ _ hwhole (by decide) (by decide) (by decide) (by decide)
      (by decide) _ _ _
  · refine (division_is_exact.2.1 _ _ _ hfront (by decide)).mpr ?_
    refine @Division.badInput _ _ _ [⟨['\r', '\n'], ['+', '5']⟩] [] [5] 2 rfl (by decide) (by decide)
      (by decide) (by decide) ?_
    rintro word ⟨⟩

end Stepwise.Header
