import Mathlib.Data.List.Induction
import Stepwise.Proofs.Layout
import Stepwise.Proofs.ReadingOn
import Stepwise.Proofs.Termination

/-!
# Adding functions to a program

A text of functions can be put behind the text of a program. As long as their names are new, the
program does what it did before.

There are three parts to this. Lexing is local to lines, so that the tokens of the longer text are
those of the program and then those of the functions, further down. Reading does not look at what
follows, so that the longer text is read as the program with more functions. And a run never looks
at a function that it does not call: it would have to call one that the program did not have before,
and then it would have failed.

## Main results

* `Token.lexProgram_append`: the tokens of a program with more lines behind it.
* `Runner.whole_of_extension`: the run of a program with more functions.
* `adding_functions_is_conservative`: all of this for whole sessions.
-/

namespace Stepwise

open Machine Exec

/-! ## Section 1: Lines -/

namespace Text

theorem trimEnd_concat (cs : List Char) (c : Char) :
    trimEnd (cs ++ [c]) = if isBlank c then trimEnd cs else cs ++ [c] := by
  unfold trimEnd
  rw [List.reverse_concat, List.dropWhile_cons]
  split <;> simp

/-- A carriage return at the end of a line is blank. -/
theorem trimEnd_dropReturn (line : List Char) :
    trimEnd (dropReturn line).reverse = trimEnd line.reverse := by
  unfold dropReturn
  split
  · rw [List.reverse_cons, trimEnd_concat, if_pos (by decide)]
  · rfl

/-- The lines of two texts with a line feed between them. The last line of the first text loses the
carriage return that it may end in. If the first text ends in a line feed already, there is an empty
line more. -/
theorem exists_linesFrom_append (line cs ds : List Char) :
    ∃ before blank, linesFrom line (cs ++ '\n' :: ds) = before ++ (blank ++ linesFrom [] ds) ∧
      before.map trimEnd = (linesFrom line cs).map trimEnd ∧ ∀ l ∈ blank, l = [] := by
  induction cs generalizing line with
  | nil =>
    cases line with
    | nil =>
      -- The first text has no line here, but the line feed ends one.
      exact ⟨[], [[]], by simp [linesFrom, dropReturn]⟩
    | cons c line =>
      refine ⟨[(dropReturn (c :: line)).reverse], [], by simp [linesFrom], ?_, by simp⟩
      simp [linesFrom, trimEnd_dropReturn]
  | cons c cs ih =>
    simp only [List.cons_append, linesFrom]
    split
    · obtain ⟨before, blank, hlines, hbefore, hblank⟩ := ih []
      refine ⟨(dropReturn line).reverse :: before, blank, ?_, ?_, hblank⟩
      · simp [hlines]
      · simp [hbefore]
    · exact ih (c :: line)

theorem numberFrom_append (first : Nat) (xs ys : List (List Char)) :
    numberFrom first (xs ++ ys) = numberFrom first xs ++ numberFrom (first + xs.length) ys := by
  induction xs generalizing first with
  | nil => rfl
  | cons x xs ih => simp [numberFrom, ih, Nat.add_assoc, Nat.add_comm 1]

/-- Numbered lines without the blanks at their ends. -/
def trimmed (numbered : List (Nat × List Char)) : List (Nat × List Char) :=
  numbered.map (Prod.map id trimEnd)

theorem trimmed_numberFrom (first : Nat) (xs : List (List Char)) :
    trimmed (numberFrom first xs) = numberFrom first (xs.map trimEnd) := by
  induction xs generalizing first with
  | nil => rfl
  | cons x xs ih =>
    have htail := ih (first + 1)
    unfold trimmed at htail ⊢
    simp [numberFrom, htail]

/-- Whether a line is blank does not depend on the blanks at its end. -/
theorem isBlankText_trimEnd (cs : List Char) : isBlankText (trimEnd cs) = isBlankText cs := by
  induction cs using List.reverseRecOn with
  | nil => rfl
  | append_singleton cs c ih =>
    rw [trimEnd_concat]
    split
    · next hblank =>
      rw [ih]
      simp [isBlankText, hblank]
    · rfl

end Text

/-! ## Section 2: Tokens -/

/-- The place some lines further down. -/
def Location.down (lines : Nat) (loc : Location) : Location :=
  ⟨loc.line + lines, loc.column⟩

namespace Token

theorem isWordChar_of_isBlank {c : Char} (h : Text.isBlank c = true) : isWordChar c = false := by
  have hcode (a b : Char) (hlow : a ≤ c) (hhigh : c ≤ b) :
      a.toNat ≤ c.toNat ∧ c.toNat ≤ b.toNat :=
    ⟨hlow, hhigh⟩
  rw [Bool.eq_false_iff]
  intro hword
  simp only [Text.isBlank, Bool.or_eq_true, Bool.and_eq_true, decide_eq_true_eq, beq_iff_eq] at h
  simp only [isWordChar, Text.isDigit, Bool.or_eq_true, Bool.and_eq_true, decide_eq_true_eq,
    beq_iff_eq] at hword
  rcases hword with ((⟨hlow, hhigh⟩ | ⟨hlow, hhigh⟩) | ⟨hlow, hhigh⟩) | rfl
  · have hrange := hcode _ _ hlow hhigh
    simp at hrange
    omega
  · have hrange := hcode _ _ hlow hhigh
    simp at hrange
    omega
  · have hrange := hcode _ _ hlow hhigh
    simp at hrange
    omega
  · simp at h

/-- A blank extends no token. -/
theorem continues_of_isBlank {c : Char} (h : Text.isBlank c = true) (read : List Char) :
    continues read c = false := by
  have hnot (d : Char) (hd : Text.isBlank d = false) : c ≠ d := by
    rintro rfl
    rw [hd] at h
    cases h
  cases read with
  | nil => rfl
  | cons last before =>
    have hequals := hnot '=' (by decide)
    have hsame :
        (c == last && (last == '&' || last == '|' || last == '<' || last == '>')) = false := by
      rw [Bool.eq_false_iff]
      intro hpair
      simp only [Bool.and_eq_true, Bool.or_eq_true, beq_iff_eq] at hpair
      obtain ⟨rfl, hlast⟩ := hpair
      rcases hlast with ((rfl | rfl) | rfl) | rfl <;> exact absurd h (by decide)
    simp [continues, isWordChar_of_isBlank h, hequals, hsame]

/-- A blank at the end of a line is no token. -/
theorem lexFrom_concat {c : Char} (h : Text.isBlank c = true) (line start column : Nat)
    (read cs : List Char) :
    lexFrom line start column read (cs ++ [c]) = lexFrom line start column read cs := by
  induction cs generalizing start column read with
  | nil =>
    -- The token that is being read ends here in either case, and the blank alone is left out.
    simp [lexFrom, continues_of_isBlank h, emit, Text.isBlankText, h]
  | cons d cs ih =>
    simp only [List.cons_append, lexFrom]
    rw [ih, ih]

theorem lexLine_trimEnd (line : Nat) (cs : List Char) :
    lexLine line (Text.trimEnd cs) = lexLine line cs := by
  induction cs using List.reverseRecOn with
  | nil => rfl
  | append_singleton cs c ih =>
    rw [Text.trimEnd_concat]
    split
    · next hblank => rw [ih, lexLine, lexLine, lexFrom_concat hblank]
    · rfl

theorem lexLines_append (xs ys : List (Nat × List Char)) :
    lexLines (xs ++ ys) = lexLines xs ++ lexLines ys :=
  List.flatMap_append

/-- The blanks at the ends of lines do not count. -/
theorem lexLines_trimmed (numbered : List (Nat × List Char)) :
    lexLines (Text.trimmed numbered) = lexLines numbered := by
  unfold lexLines Text.trimmed
  rw [List.flatMap_map]
  simp [lexLine_trimEnd]

/-- Empty lines have no tokens. -/
theorem lexLines_of_empty (first : Nat) {blank : List (List Char)} (h : ∀ l ∈ blank, l = []) :
    lexLines (Text.numberFrom first blank) = [] := by
  induction blank generalizing first with
  | nil => rfl
  | cons l blank ih =>
    have hl := h l (by simp)
    have hblank := ih (first + 1) fun l hl => h l (by simp [hl])
    rw [Text.numberFrom, lexLines, List.flatMap_cons, hl]
    exact hblank

/-- Tokens further down are the same tokens at places further down. -/
theorem lexFrom_down (lines line start column : Nat) (read cs : List Char) :
    lexFrom (line + lines) start column read cs =
      movedAll (Location.down lines) (lexFrom line start column read cs) := by
  have hemit (start : Nat) (read : List Char) (rest : List Token) :
      emit (line + lines) start read (movedAll (Location.down lines) rest) =
        movedAll (Location.down lines) (emit line start read rest) := by
    unfold emit
    split <;> rfl
  induction cs generalizing start column read with
  | nil => exact hemit start read []
  | cons c cs ih =>
    rw [lexFrom, lexFrom]
    split
    · exact ih start (column + 1) (c :: read)
    · rw [ih, hemit]

theorem lexLines_down (lines first : Nat) (xs : List (List Char)) :
    lexLines (Text.numberFrom (first + lines) xs) =
      movedAll (Location.down lines) (lexLines (Text.numberFrom first xs)) := by
  induction xs generalizing first with
  | nil => rfl
  | cons x xs ih =>
    have htail := ih (first + 1)
    rw [Nat.add_right_comm] at htail
    have hline := lexFrom_down lines first 1 1 [] x
    unfold lexLines at htail ⊢
    simp only [Text.numberFrom, List.flatMap_cons, List.map_append, htail]
    exact congrArg (· ++ _) hline

/-! ## Section 3: The opening -/

/-- Blank lines are passed over alike whatever blanks stand at the ends of lines. -/
theorem trimmed_dropWhile (numbered : List (Nat × List Char)) :
    Text.trimmed (numbered.dropWhile fun line => Text.isBlankText line.2) =
      (Text.trimmed numbered).dropWhile fun line => Text.isBlankText line.2 := by
  have hblank : (fun line : Nat × List Char => Text.isBlankText line.2) ∘ Prod.map id Text.trimEnd =
      fun line => Text.isBlankText line.2 := by
    funext line
    exact Text.isBlankText_trimEnd line.2
  unfold Text.trimmed
  rw [List.dropWhile_map, hblank]

/-- The lines that open a program are found alike whatever blanks stand at the ends of lines, and
however many lines follow. -/
theorem dropOpening_append {total : Nat} {expected : List String}
    {lines rest lines' : List (Nat × List Char)} (h : dropOpening total expected lines = .ok rest)
    (hlines : Text.trimmed lines' = Text.trimmed lines) :
    ∃ rest', Text.trimmed rest' = Text.trimmed rest ∧
      ∀ (total' : Nat) (more : List (Nat × List Char)),
        dropOpening total' expected (lines' ++ more) = .ok (rest' ++ more) := by
  induction expected generalizing lines lines' with
  | nil =>
    cases h
    exact ⟨lines', hlines, fun _ _ => rfl⟩
  | cons first expected ih =>
    rw [dropOpening] at h
    split at h
    · cases h
    · next line tail hdrop =>
      split at h
      · next hline =>
        -- The first line that is not blank is the same in both lists, up to the blanks at its end.
        have hdrop' := trimmed_dropWhile lines'
        rw [hlines, ← trimmed_dropWhile, hdrop] at hdrop'
        obtain ⟨line', tail', hcons, hline', htail⟩ := List.map_eq_cons_iff.mp hdrop'
        obtain ⟨rest', hrest, hmore⟩ := ih h htail
        refine ⟨rest', hrest, fun total' more => ?_⟩
        have hfirst : Text.trimEnd line'.2 = first.toList := by
          rw [← hline]
          exact congrArg Prod.snd hline'
        rw [dropOpening, List.dropWhile_append, hcons]
        simp [hfirst, hmore]
      · cases h

/-- The tokens of a program text with more lines behind it are those of the text and then those of
the lines, further down. -/
theorem lexProgram_append {text : String} {ts : List Token} (h : lexProgram text = .ok ts)
    (added : String) :
    ∃ lines, lexProgram (text ++ "\n" ++ added) =
      .ok (ts ++ movedAll (Location.down lines) (lex added)) := by
  unfold lexProgram at h
  cases hopening : dropOpening (Text.lines text).length openingLines (Text.numberedLines text) with
  | error missing =>
    rw [hopening] at h
    cases h
  | ok rest =>
    rw [hopening] at h
    cases h
    obtain ⟨before, blank, hlines, hbefore, hblank⟩ :=
      Text.exists_linesFrom_append [] text.toList added.toList
    have hwhole : Text.lines (text ++ "\n" ++ added) = before ++ (blank ++ Text.lines added) := by
      simpa [Text.lines] using hlines
    have htrimmed : Text.trimmed (Text.numberFrom 1 before) =
        Text.trimmed (Text.numberedLines text) := by
      rw [Text.numberedLines, Text.trimmed_numberFrom, Text.trimmed_numberFrom, hbefore]
      rfl
    obtain ⟨rest', hrest, hmore⟩ := dropOpening_append hopening htrimmed
    refine ⟨before.length + blank.length, ?_⟩
    -- What follows the opening are the lines of the program, an empty line at most, and what has
    -- been added.
    rw [lexProgram, Text.numberedLines, hwhole, Text.numberFrom_append, hmore]
    refine congrArg Except.ok ?_
    rw [lexLines_append, ← lexLines_trimmed rest', hrest, lexLines_trimmed, Text.numberFrom_append,
      lexLines_append, lexLines_of_empty _ hblank, List.nil_append, Nat.add_assoc, lexLines_down]
    rfl

end Token

/-! ## Section 4: Runs -/

namespace Runner

/-- A run with more functions is the same run, unless it fails because one of them is missing. -/
theorem whole_of_extension {ctx ctx' : Context} (hlimits : ctx'.limits = ctx.limits)
    (hglobals : ctx'.program.globals = ctx.program.globals)
    (hknown : ∀ {name routine}, ctx.program.find? name = some routine →
      ctx'.program.find? name = some routine)
    {budget : Nat} {main : Routine} {m : Machine}
    (h : ∀ name loc, halt? (whole ctx budget main m) ≠ some (.fault (.undefinedRoutine name loc))) :
    whole ctx' budget main m = whole ctx budget main m := by
  have hsound : (Coupling.same fun halt => ∃ name loc,
      halt = .fault (.undefinedRoutine name loc)).Sound ctx ctx' := by
    apply Coupling.same_sound_of_find? hknown
    · -- Where the second run would call one of the added functions, the first one fails.
      intro callee _
      exact .inr fun loc => ⟨callee, loc, rfl⟩
    · exact .inl (by rw [hlimits])
    · intro m
      rw [tick_apply, tick_apply, hlimits]
      exact .refl _
  rcases Coupling.whole_eq_or_escapes hsound hglobals (.inl rfl) main m with
    heq | ⟨halt, hhalt, ⟨name, loc, rfl⟩, -⟩
  · exact heq
  · exact absurd hhalt (h name loc)

end Runner

/-- Whether a fault is that a function is missing: the main function, or one that was called. -/
def Fault.missesRoutine : Fault → Bool
  | .noMain | .undefinedRoutine _ _ => true
  | _ => false

/-- A program that functions have been added to runs like the program, unless that misses one. -/
theorem Runner.runWithin_join {program more : Program} (hglobals : more.globals = [])
    (inputs : List Int32) (limits : Limits) (logged : Bool) (budget : Nat)
    (h : ∀ fault, ((ofProgram program inputs limits logged).runWithin budget).1 =
      .error (.fault fault) → fault.missesRoutine = false) :
    let run := (ofProgram program inputs limits logged).runWithin budget
    let run' := (ofProgram (program.join more) inputs limits logged).runWithin budget
    run'.1 = run.1 ∧ run'.2.machine = run.2.machine := by
  intro run run'
  have hknown : ∀ {name routine}, program.find? name = some routine →
      (program.join more).find? name = some routine := by
    intro name routine hname
    rw [Program.find?_join, hname]
    rfl
  cases hmain : program.find? mainName with
  | none =>
    -- A run that finds no main function has missed one.
    have hrun : run.1 = .error (.fault .noMain) :=
      congrArg Prod.fst (runWithin_of_no_main hmain budget)
    exact absurd (h _ hrun) (by decide)
  | some main =>
    obtain ⟨houtcome, hmachine⟩ := firstRun_of_main hmain inputs limits logged budget
    obtain ⟨houtcome', hmachine'⟩ := firstRun_of_main (hknown hmain) inputs limits logged budget
    have hwhole : whole ⟨program.join more, limits⟩ budget main
        (firstMachine inputs limits.traceLimit logged) =
        whole ⟨program, limits⟩ budget main (firstMachine inputs limits.traceLimit logged) := by
      refine whole_of_extension ?_ ?_ hknown ?_
      · rfl
      · simp [Program.join, hglobals]
      · intro name loc hhalt
        have herror := houtcome.trans (outcome_eq_error_iff.mpr hhalt)
        exact absurd (h _ herror) (by simp [Fault.missesRoutine])
    exact ⟨houtcome'.trans ((congrArg outcome hwhole).trans houtcome.symm),
      hmachine'.trans ((congrArg final hwhole).trans hmachine.symm)⟩

/-! ## Section 5: Sessions -/

/-- A text of functions behind the text of a program is read as the program with more functions. -/
theorem Program.exists_ofText_append {text added : String} {program more : Program}
    (htext : Program.ofText text = .ok program)
    (hadded : Program.ofTokens (Token.lex added) = .ok more) (hglobals : more.globals = [])
    (hapart : program.Apart more) :
    ∃ more', more'.globals = [] ∧
      Program.ofText (text ++ "\n" ++ added) = .ok (program.join more') := by
  unfold Program.ofText at htext
  split at htext
  · cases htext
  · next ts hts =>
    obtain ⟨lines, hlex⟩ := Token.lexProgram_append hts added
    have hmoved := Program.ofTokens_moved (Location.down lines) (Token.lex added)
    rw [hadded] at hmoved
    refine ⟨more.relabel (.moving (.down lines)), ?_, ?_⟩
    · rw [Program.relabel, hglobals]
      rfl
    · -- The names of the functions are not moved.
      have hapart' : program.Apart (more.relabel (.moving (.down lines))) := by
        intro r hr s hs
        obtain ⟨s', hs', rfl⟩ := List.mem_map.mp hs
        exact hapart r hr s' hs'
      rw [Program.ofText, hlex]
      exact Program.ofTokens_append htext hmoved hapart'

/-- The failure of a session, if its run has failed. -/
def Failure.ofOutcome? : Except Halt Unit → Option Failure
  | .ok _ => none
  | .error halt => some (.ofHalt halt)

/-- What a session shows of the run of a program that has been loaded. -/
theorem Session.execute_of_ofText {text : String} {program : Program}
    (h : Program.ofText text = .ok program) (inputs : List Int32) (limits : Limits) :
    (Session.execute text inputs limits).output =
        (Runner.ofProgram program inputs limits false).run.2.machine.output ∧
      (Session.execute text inputs limits).trace =
        (Runner.ofProgram program inputs limits false).run.2.machine.history ∧
      (Session.execute text inputs limits).failure =
        Failure.ofOutcome? (Runner.ofProgram program inputs limits false).run.1 := by
  unfold Program.ofText at h
  split at h
  · cases h
  · next ts hts =>
    have houtcome : (Loading.load ts).outcome = .ok program := h
    rw [execute, executeLogged_of_lexProgram hts]
    unfold executeTokens
    dsimp only
    rw [houtcome]
    exact ⟨rfl, rfl, rfl⟩

/-- Adding functions to a program is conservative. If a text of functions whose names are new is put
behind the text of a program, then both are read together, and as long as a run of the program does
not miss a function, it is the same run: it ends in the same way, and its session shows the same
output, the same failure and the same trace. -/
theorem adding_functions_is_conservative {text added : String} {program more : Program}
    (htext : Program.ofText text = .ok program)
    (hadded : Program.ofTokens (Token.lex added) = .ok more) (hglobals : more.globals = [])
    (hapart : program.Apart more) :
    ∃ both, Program.ofText (text ++ "\n" ++ added) = .ok both ∧
      ∀ (inputs : List Int32) (limits : Limits),
        (∀ run, (Runner.ofProgram program inputs limits false).Ends run →
          (∀ fault, run.1 = .error (.fault fault) → fault.missesRoutine = false) →
          ∃ run', (Runner.ofProgram both inputs limits false).Ends run' ∧ run'.1 = run.1 ∧
            run'.2.machine = run.2.machine) ∧
        let before := Session.execute text inputs limits
        let after := Session.execute (text ++ "\n" ++ added) inputs limits
        (∀ fault, before.failure = some (.runtime fault) → fault.missesRoutine = false) →
          after.output = before.output ∧ after.failure = before.failure ∧
            after.trace = before.trace := by
  obtain ⟨more', hglobals', hboth⟩ := Program.exists_ofText_append htext hadded hglobals hapart
  refine ⟨program.join more', hboth, fun inputs limits => ⟨?_, ?_⟩⟩
  · rintro run ⟨hend, budget, rfl⟩ hfault
    obtain ⟨houtcome, hmachine⟩ :=
      Runner.runWithin_join hglobals' inputs limits false budget hfault
    exact ⟨_, ⟨fun hcut => hend (houtcome.symm.trans hcut), budget, rfl⟩, houtcome, hmachine⟩
  · intro before after hfault
    obtain ⟨houtput, htrace, hfailure⟩ := Session.execute_of_ofText htext inputs limits
    obtain ⟨houtput', htrace', hfailure'⟩ := Session.execute_of_ofText hboth inputs limits
    have hmisses : ∀ fault, (Runner.ofProgram program inputs limits false).run.1 =
        .error (.fault fault) → fault.missesRoutine = false :=
      fun fault hrun => hfault fault (hfailure.trans (congrArg Failure.ofOutcome? hrun))
    obtain ⟨houtcome, hmachine⟩ :=
      Runner.runWithin_join hglobals' inputs limits false (Runner.budget limits) hmisses
    refine ⟨?_, ?_, ?_⟩
    · exact houtput'.trans ((congrArg Machine.output hmachine).trans houtput.symm)
    · exact hfailure'.trans ((congrArg Failure.ofOutcome? houtcome).trans hfailure.symm)
    · exact htrace'.trans ((congrArg Machine.history hmachine).trans htrace.symm)

/-- A program that prints and then divides by zero in a function. It ends in a carriage return. -/
def dividesInCall : String :=
  "#include<iostream>\n#include<cstdio>\nusing namespace std;\n" ++
    "int f()\x7breturn 1/0;\x7d\nint main()\x7bcout<<2<<f();\x7d\r"

/-- The program that is read of it. -/
def dividingInCall : Program :=
  ⟨[⟨"f", [], .sequence [.giveBack (.binary .div (.literal 1 ⟨4, 16⟩) (.literal 0 ⟨4, 18⟩) ⟨4, 17⟩)
      ⟨4, 9⟩], ⟨4, 5⟩⟩,
    ⟨"main", [], .sequence [.output [.literal 2 ⟨5, 18⟩, .call "f" [] ⟨5, 21⟩] ⟨5, 12⟩], ⟨5, 5⟩⟩],
    []⟩

/-- Limits that leave room for it. -/
def dividingLimits : Limits :=
  ⟨some 20, 5, some 9000⟩

/-- A function that calls a function that there is not. -/
def callsNothing : String :=
  "int g()\x7breturn h(1);\x7d"

theorem ofText_dividesInCall : Program.ofText dividesInCall = .ok dividingInCall := by
  have hlex : Token.lexProgram dividesInCall = .ok (List.zipWith Token.mk
      ["int", "f", "(", ")", "\x7b", "return", "1", "/", "0", ";", "\x7d",
        "int", "main", "(", ")", "\x7b", "cout", "<<", "2", "<<", "f", "(", ")", ";", "\x7d"]
      [⟨4, 1⟩, ⟨4, 5⟩, ⟨4, 6⟩, ⟨4, 7⟩, ⟨4, 8⟩, ⟨4, 9⟩, ⟨4, 16⟩, ⟨4, 17⟩, ⟨4, 18⟩, ⟨4, 19⟩, ⟨4, 20⟩,
        ⟨5, 1⟩, ⟨5, 5⟩, ⟨5, 9⟩, ⟨5, 10⟩, ⟨5, 11⟩, ⟨5, 12⟩, ⟨5, 16⟩, ⟨5, 18⟩, ⟨5, 19⟩, ⟨5, 21⟩,
        ⟨5, 22⟩, ⟨5, 23⟩, ⟨5, 24⟩, ⟨5, 25⟩]) := by
    decide +kernel
  rw [Program.ofText, hlex]
  rfl

/-- With the function added, the program prints two and fails in the same way as before. -/
theorem adding_functions_is_conservative_callsNothing :
    (Session.execute dividesInCall [] dividingLimits).failure =
        some (.runtime (.divisionByZero ⟨4, 17⟩)) ∧
      (Session.execute dividesInCall [] dividingLimits).output.text = "2" ∧
      (Session.execute (dividesInCall ++ "\n" ++ callsNothing) [] dividingLimits).output =
        (Session.execute dividesInCall [] dividingLimits).output ∧
      (Session.execute (dividesInCall ++ "\n" ++ callsNothing) [] dividingLimits).failure =
        (Session.execute dividesInCall [] dividingLimits).failure ∧
      (Session.execute (dividesInCall ++ "\n" ++ callsNothing) [] dividingLimits).trace =
        (Session.execute dividesInCall [] dividingLimits).trace := by
  have hlex : Token.lex callsNothing = List.zipWith Token.mk
      ["int", "g", "(", ")", "\x7b", "return", "h", "(", "1", ")", ";", "\x7d"]
      [⟨1, 1⟩, ⟨1, 5⟩, ⟨1, 6⟩, ⟨1, 7⟩, ⟨1, 8⟩, ⟨1, 9⟩, ⟨1, 16⟩, ⟨1, 17⟩, ⟨1, 18⟩, ⟨1, 19⟩, ⟨1, 20⟩,
        ⟨1, 21⟩] := by
    decide +kernel
  have hadded : Program.ofTokens (Token.lex callsNothing) = .ok ⟨[⟨"g", [], .sequence
      [.giveBack (.call "h" [.literal 1 ⟨1, 18⟩] ⟨1, 16⟩) ⟨1, 9⟩], ⟨1, 5⟩⟩], []⟩ := by
    rw [hlex]
    rfl
  obtain ⟨houtput, -, hfailure⟩ :=
    Session.execute_of_ofText ofText_dividesInCall [] dividingLimits
  have hdivision : (Session.execute dividesInCall [] dividingLimits).failure =
      some (.runtime (.divisionByZero ⟨4, 17⟩)) := by
    rw [hfailure]
    decide +kernel
  obtain ⟨both, -, hboth⟩ := adding_functions_is_conservative ofText_dividesInCall hadded rfl
    (by simp [Program.Apart, dividingInCall])
  refine ⟨hdivision, ?_, (hboth [] _).2 fun fault hfault => ?_⟩
  · rw [houtput]
    decide +kernel
  · rw [hdivision] at hfault
    cases hfault
    rfl

end Stepwise
