import Stepwise.Proofs.Course
import Stepwise.Proofs.Layout
import Stepwise.Proofs.Shape

/-!
# Every reported place is a place of the program

A fault names a place, and the place is that of a token of the program. Places come from many sources:
from the tokens at hand, from the last token before some end, from the nodes of a tree, and from the
machine, which remembers where it was. But none of these sources makes up a place, because reading and
running only hand places on. So suppose that all places are moved except those of the tokens. The
tokens stay where they are, and with them the fault that is reported. Its place has not been moved, and
so it is a token's.

One place is made up: the machine stands at the start of the text before it runs. It leaves that place
with its first statement, before anything can go wrong.

## Main results

* `Token.standsIn_of_mem_lexProgram`: every token stands in the text where it says.
* `Program.exists_of_ofTokens_error`: the place of a fault in a list of tokens.
* `Runner.Later.exists_of_fault`: the place of a fault in a run.
* `reported_places_are_real`: all of this for whole sessions.
-/

namespace Stepwise

open Machine Exec

/-! ## Section 1: Where tokens stand -/

namespace Token

/-- A token stands in a numbered line where it says. -/
structure StandsOn (numbered : Nat × List Char) (t : Token) : Prop where
  line : t.loc.line = numbered.1
  column : 0 < t.loc.column
  nonempty : t.text.toList ≠ []
  text : t.text.toList <+: numbered.2.drop (t.loc.column - 1)

variable {number start column : Nat} {line read cs : List Char} {t : Token}

/-- A token is written where the characters read so far begin, unless it is blank. -/
theorem mem_emit (hstart : 0 < start) (hread : line.drop (start - 1) = read.reverse ++ cs)
    {rest : List Token} (h : t ∈ emit number start read rest) :
    t.StandsOn (number, line) ∨ t ∈ rest := by
  unfold emit at h
  split at h
  · exact .inr h
  · next hblank =>
    rcases List.mem_cons.mp h with rfl | ht
    · refine .inl ⟨rfl, hstart, fun hnil => ?_, ?_⟩
      · have hread : read = [] := by simpa using hnil
        rw [hread] at hblank
        exact hblank rfl
      · simp [hread]
    · exact .inr ht

/-- Every token of a line stands where it says: the characters that have been read are those from the
column `start` on, up to the column `column`. -/
theorem standsOn_of_mem_lexFrom (h : t ∈ lexFrom number start column read cs) (hstart : 0 < start)
    (hcolumn : column = start + read.length)
    (hread : line.drop (start - 1) = read.reverse ++ cs) : t.StandsOn (number, line) := by
  induction cs generalizing start column read with
  | nil =>
    -- At the end of the line what has been read is the last token.
    rcases mem_emit hstart hread h with ht | hnil
    · exact ht
    · cases hnil
  | cons c cs ih =>
    rw [lexFrom] at h
    split at h
    · -- The character goes on with the token.
      refine ih h hstart ?_ ?_
      · rw [List.length_cons]
        omega
      · rw [hread, List.reverse_cons, List.append_assoc]
        rfl
    · rcases mem_emit hstart hread h with ht | hmore
      · exact ht
      · -- The next token begins where the one before it ends.
        refine ih hmore (by omega) rfl ?_
        have hcolumn' : column - 1 = start - 1 + read.reverse.length := by
          rw [List.length_reverse]
          omega
        rw [hcolumn', ← List.drop_drop, hread, List.drop_left]
        rfl

theorem standsOn_of_mem_lexLine {numbered : Nat × List Char}
    (h : t ∈ lexLine numbered.1 numbered.2) : t.StandsOn numbered :=
  standsOn_of_mem_lexFrom h Nat.one_pos rfl rfl

/-- What is left after the opening lines are lines of the text. -/
theorem mem_of_dropOpening {total : Nat} {expected : List String}
    {lines rest : List (Nat × List Char)} (h : dropOpening total expected lines = .ok rest)
    {numbered : Nat × List Char} (hmem : numbered ∈ rest) : numbered ∈ lines := by
  induction expected generalizing lines with
  | nil =>
    cases h
    exact hmem
  | cons first expected ih =>
    rw [dropOpening] at h
    split at h
    · cases h
    · next line more hlines =>
      split at h
      · have hmore : numbered ∈ line :: more := List.mem_cons_of_mem _ (ih h)
        rw [← hlines] at hmore
        exact List.dropWhile_subset _ hmore
      · cases h

theorem getElem?_of_mem_numberFrom {first : Nat} {lines : List (List Char)}
    {numbered : Nat × List Char} (h : numbered ∈ Text.numberFrom first lines) :
    first ≤ numbered.1 ∧ lines[numbered.1 - first]? = some numbered.2 := by
  obtain ⟨k, hk⟩ := List.mem_iff_getElem?.mp h
  rw [Text.getElem?_numberFrom] at hk
  obtain ⟨line, hline, rfl⟩ := Option.map_eq_some_iff.mp hk
  refine ⟨Nat.le_add_right first k, ?_⟩
  rwa [Nat.add_sub_cancel_left]

/-- The text of a token stands in a program text where the token says: the line of that number, from
that column on, begins with it. -/
def StandsIn (text : String) (t : Token) : Prop :=
  0 < t.loc.line ∧ 0 < t.loc.column ∧ t.text.toList ≠ [] ∧
    ∃ line, (Text.lines text)[t.loc.line - 1]? = some line ∧
      t.text.toList <+: line.drop (t.loc.column - 1)

/-- Every token of a program text stands in it where it says. -/
theorem standsIn_of_mem_lexProgram {text : String} {ts : List Token} (h : lexProgram text = .ok ts)
    (ht : t ∈ ts) : t.StandsIn text := by
  unfold lexProgram at h
  cases hopening : dropOpening (Text.lines text).length openingLines (Text.numberedLines text) with
  | error missing =>
    rw [hopening] at h
    cases h
  | ok rest =>
    rw [hopening] at h
    cases h
    obtain ⟨numbered, hnumbered, ht⟩ := List.mem_flatMap.mp ht
    have hstands := standsOn_of_mem_lexLine ht
    obtain ⟨hpos, hline⟩ := getElem?_of_mem_numberFrom (mem_of_dropOpening hopening hnumbered)
    rw [← hstands.line] at hpos hline
    exact ⟨hpos, hstands.column, hstands.nonempty, numbered.2, hline, hstands.text⟩

end Token

/-! ## Section 2: Moving everything else -/

/-- The place of a token stays, and every other place is moved. -/
def Location.aside (ts : List Token) (loc : Location) : Location :=
  if ∃ t ∈ ts, t.loc = loc then loc else ⟨loc.line + 1, loc.column⟩

variable {ts : List Token}

theorem Location.exists_of_aside_eq {loc : Location} (h : loc.aside ts = loc) :
    ∃ t ∈ ts, t.loc = loc := by
  unfold aside at h
  split at h
  · next hmem => exact hmem
  · have hline := congrArg Location.line h
    simp at hline

/-- The tokens stay where they are. -/
theorem movedAll_aside (ts : List Token) : movedAll (Location.aside ts) ts = ts := by
  refine (List.map_congr_left fun t ht => ?_).trans (List.map_id ts)
  have hloc : t.loc.aside ts = t.loc := if_pos ⟨t, ht, rfl⟩
  simp [Token.moved, hloc]

/-- A fault in a list of tokens is reported at one of them. -/
theorem Program.exists_of_ofTokens_error {fault : SyntaxFault}
    (h : Program.ofTokens ts = .error fault) : ∃ t ∈ ts, t.loc = fault.loc := by
  have hmoved := Program.ofTokens_moved (Location.aside ts) ts
  rw [movedAll_aside, h] at hmoved
  refine Location.exists_of_aside_eq ?_
  exact (congrArg SyntaxFault.loc (Except.error.inj hmoved)).symm

/-- The program of some tokens has no other places than theirs. -/
theorem Program.relabel_aside {program : Program} (h : Program.ofTokens ts = .ok program) :
    program.relabel (.moving (Location.aside ts)) = program := by
  have hmoved := Program.ofTokens_moved (Location.aside ts) ts
  rw [movedAll_aside, h] at hmoved
  exact (Except.ok.inj hmoved).symm

/-! ## Section 3: The globals of a program have places -/

/-- Whether a node has a place of its own. -/
def Node.Placed (node : Node) : Prop :=
  node.loc?.isSome

namespace Declaration

open Expression (Reading Gives)

variable {whole loc : Location}

theorem gives_placed_initializer (first : Token) (ts : List Token) :
    Gives (fun nodes => ∀ node ∈ nodes, node.Placed) (initializer first ts) := by
  unfold initializer
  split
  · exact .ok (List.forall_mem_nil _)
  · split
    · split
      · exact .error
      · exact .bind (.any _) fun value _ => .ok (List.forall_mem_singleton.mpr rfl)
    · exact .error

theorem gives_placed_declarator (ts : List Token) :
    Gives (fun nodes => ∀ node ∈ nodes, node.Placed) (declarator whole loc ts) := by
  cases ts with
  | nil => exact .error
  | cons first ts =>
    refine .bind (.any _) fun name _ => .bind (.any _) fun rest _ =>
      .bind (gives_placed_initializer first rest) fun nodes hnodes => ?_
    exact .ok (List.forall_mem_cons.mpr ⟨rfl, hnodes⟩)

theorem gives_placed_declarators (pieces : List (List Token)) :
    Gives (fun nodes => ∀ node ∈ nodes, node.Placed) (declarators whole loc pieces) := by
  induction pieces with
  | nil => exact .ok (List.forall_mem_nil _)
  | cons piece pieces ih =>
    refine .bind (gives_placed_declarator piece) fun nodes hnodes => .bind ih fun more hmore => ?_
    exact .ok (List.forall_mem_append.mpr ⟨hnodes, hmore⟩)

theorem gives_placed_read (ts : List Token) :
    Gives (fun p => ∀ node ∈ p.1, node.Placed) (read whole loc ts) :=
  .bind (.any _) fun _ _ => .bind (gives_placed_declarators _) fun _ hnodes => .ok hnodes

end Declaration

/-- All that stands outside functions has a place of its own. -/
theorem Loading.gives_placed_loadWithin {whole : Location} (bound : Nat) {program : Program}
    (h : ∀ node ∈ program.globals, node.Placed) (ts : List Token) :
    Expression.Gives (fun program => ∀ node ∈ program.globals, node.Placed)
      (loadWithin whole bound program ts).outcome := by
  fun_induction loadWithin whole bound program ts with
  | case1 => exact .ok h
  | case5 bound program t ts _ first ts' _ routine rest _ _ _ ih => exact ih h
  | case7 bound program t ts _ _ nodes rest hnodes ih =>
    exact ih (List.forall_mem_append.mpr ⟨h, Declaration.gives_placed_read ts _ hnodes⟩)
  | _ => exact .error

theorem Program.placed_of_ofTokens {program : Program} (h : Program.ofTokens ts = .ok program) :
    ∀ node ∈ program.globals, node.Placed :=
  Loading.gives_placed_loadWithin ts.length (List.forall_mem_nil _) ts program h

/-! ## Section 4: The first place of the machine -/

/-- Arriving at a node with a place of its own, the machine leaves its place. -/
theorem arrive_of_placed {node : Node} (h : node.Placed) (ctx : Context) (m : Machine)
    (loc : Location) : arrive ctx node { m with loc := loc } = arrive ctx node m := by
  obtain ⟨place, hplace⟩ := Option.isSome_iff_exists.mp h
  rw [arrive_eq, arrive_eq, hplace]
  rfl

theorem exec_of_placed {node : Node} (h : node.Placed) (ctx : Context) (enter : Enter)
    (budget : Nat) (m : Machine) (loc : Location) :
    exec ctx enter budget node { m with loc := loc } = exec ctx enter budget node m := by
  -- Every statement with a place begins by arriving at it.
  have hbind : ∀ {α : Type} (f : Unit → Exec α),
      (arrive ctx node >>= f) { m with loc := loc } = (arrive ctx node >>= f) m := by
    intro α f
    simp only [bind, EStateM.bind, arrive_of_placed h]
  cases node with
  | sequence | empty => cases h
  | declaration | ifElse | whileLoop | forLoop | block | giveBack =>
    rw [exec]
    exact hbind _
  | _ =>
    rw [exec_of_standsAlone rfl]
    exact hbind _

namespace Runner

/-- The place at which the machine stands before a run does not matter: the first of the globals takes
it away, or else the main function does. -/
theorem runWithin_of_placed {r : Runner} (hglobals : ∀ node ∈ r.program.globals, node.Placed)
    {main : Routine} (hmain : r.program.find? mainName = some main) (loc : Location)
    (budget : Nat) :
    ({ r with machine := { r.machine with loc := loc } } : Runner).runWithin budget =
      r.runWithin budget := by
  unfold runWithin
  cases hnodes : r.program.globals with
  | nil =>
    -- Without globals the main function begins, and takes over its own place.
    have hbegun : runMain ⟨r.program, r.limits⟩ budget main { r.machine with loc := loc } =
        runMain ⟨r.program, r.limits⟩ budget main r.machine := rfl
    simp only [hmain, runGlobals, pure, EStateM.pure, hbegun]
  | cons node nodes =>
    -- Otherwise the first of the globals does.
    have hexec := exec_of_placed (hglobals node (hnodes ▸ List.mem_cons_self)) ⟨r.program, r.limits⟩
      (activate ⟨r.program, r.limits⟩ budget) budget r.machine loc
    simp only [hmain, runGlobals, bind, EStateM.bind, hexec]

end Runner

/-! ## Section 5: Faults of a run -/

theorem Fault.loc?_relabel (σ : Relabeling) (fault : Fault) :
    (fault.relabel σ).loc? = fault.loc?.map σ.place := by
  cases fault <;> rfl

namespace Runner

variable {program : Program} {inputs : List Int32} {limits : Limits} {logged : Bool} {r : Runner}

/-- Without a main function a runner stays as it is. -/
theorem Later.eq_of_no_main {first : Runner} (h : first.Later r)
    (hmain : first.program.find? mainName = none) : r = first := by
  induction h with
  | self => rfl
  | again _ budget ih =>
    rw [ih, runWithin_of_no_main hmain]

/-- The runs of a program that has been read have no other places than its tokens. -/
theorem Later.movedRun_aside (hread : Program.ofTokens ts = .ok program) {main : Routine}
    (hmain : program.find? mainName = some main)
    (h : (ofProgram program inputs limits logged).Later r) (budget : Nat) :
    movedRun (Location.aside ts) (r.runWithin budget) = r.runWithin budget := by
  induction h generalizing budget with
  | self =>
    have hmoved : (ofProgram program inputs limits logged).moved (Location.aside ts) =
        { ofProgram program inputs limits logged with
          machine := { (ofProgram program inputs limits logged).machine with
            loc := Location.start.aside ts } } := by
      unfold moved Machine.moved ofProgram
      dsimp only
      rw [Program.relabel_aside hread, Option.map_map,
        show History.moved (Location.aside ts) ∘ History.empty = History.empty from
          funext (History.empty_moved _)]
    rw [← runWithin_moved, hmoved]
    exact runWithin_of_placed (Program.placed_of_ofTokens hread) hmain _ budget
  | @again r' h budget' ih =>
    have hstays : (r'.runWithin budget').2.moved (Location.aside ts) = (r'.runWithin budget').2 :=
      congrArg Prod.snd (ih budget')
    rw [← runWithin_moved, hstays]

/-- A fault in a run of a program that has been read is reported at one of its tokens. -/
theorem Later.exists_of_fault (hread : Program.ofTokens ts = .ok program)
    (h : (ofProgram program inputs limits logged).Later r) {budget : Nat} {fault : Fault}
    (hfault : (r.runWithin budget).1 = .error (.fault fault)) {loc : Location}
    (hloc : fault.loc? = some loc) : ∃ t ∈ ts, t.loc = loc := by
  cases hmain : program.find? mainName with
  | none =>
    -- The fault of a missing main function has no place.
    obtain rfl := h.eq_of_no_main hmain
    rw [runWithin_of_no_main hmain] at hfault
    cases hfault
    cases hloc
  | some main =>
    -- The place of the fault stays when all places but those of the tokens are moved.
    have hmoved := congrArg Prod.fst (h.movedRun_aside hread hmain budget)
    simp only [movedRun, hfault] at hmoved
    have hfixed : fault.relabel (.moving (Location.aside ts)) = fault :=
      Halt.fault.inj (Except.error.inj hmoved)
    have hplace := Fault.loc?_relabel (.moving (Location.aside ts)) fault
    rw [hfixed, hloc] at hplace
    exact Location.exists_of_aside_eq (Option.some.inj hplace).symm

end Runner

/-! ## Section 6: Sessions -/

/-- The failure of a session that has tokens: it is found in them or in the run of their program. -/
theorem Session.failure_of_lexProgram {text : String} (hlex : Token.lexProgram text = .ok ts)
    {inputs : List Int32} {limits : Limits} {logged : Bool} {failure : Failure}
    (h : (executeLogged text inputs limits logged).failure = some failure) :
    (∃ fault, Program.ofTokens ts = .error fault ∧ failure = .source fault) ∨
      ∃ program halt, Program.ofTokens ts = .ok program ∧
        (Runner.ofProgram program inputs limits logged).run.1 = .error halt ∧
        failure = .ofHalt halt := by
  rw [executeLogged_of_lexProgram hlex, executeTokens] at h
  cases hread : (Loading.load ts).outcome with
  | error fault =>
    rw [hread] at h
    cases h
    exact .inl ⟨fault, hread, rfl⟩
  | ok program =>
    rw [hread] at h
    refine .inr ⟨program, ?_⟩
    cases hrun : (Runner.ofProgram program inputs limits logged).run.1 with
    | ok _ =>
      simp only [executeProgram, hrun] at h
      cases h
    | error halt =>
      simp only [executeProgram, hrun] at h
      exact ⟨halt, hread, rfl, (Option.some.inj h).symm⟩

/-- Every reported place is real. A fault in a list of tokens is reported at one of them, and so is every
fault with a place in any run of the program of these tokens. If a session fails and tells a place, then
the lines that open the program are missing, and the place is the first column of the line that is told;
or it is the place of a token, and the text has the token there. -/
theorem reported_places_are_real :
    (∀ (ts : List Token) (fault : SyntaxFault), Program.ofTokens ts = .error fault →
      ∃ t ∈ ts, t.loc = fault.loc) ∧
    (∀ (ts : List Token) (program : Program) (inputs : List Int32) (limits : Limits) (logged : Bool)
      (r : Runner), Program.ofTokens ts = .ok program →
        (Runner.ofProgram program inputs limits logged).Later r → ∀ budget fault loc,
          (r.runWithin budget).1 = .error (.fault fault) → fault.loc? = some loc →
            ∃ t ∈ ts, t.loc = loc) ∧
    ∀ (text : String) (inputs : List Int32) (limits : Limits) (logged : Bool) (failure : Failure)
      (loc : Location), (Session.executeLogged text inputs limits logged).failure = some failure →
        failure.loc? = some loc →
          (∃ missing, Token.lexProgram text = .error missing ∧
            failure = .source ⟨.opening missing, loc⟩ ∧ loc = ⟨missing.line, 1⟩) ∨
          ∃ ts t, Token.lexProgram text = .ok ts ∧ t ∈ ts ∧ t.loc = loc ∧ t.StandsIn text := by
  refine ⟨fun ts fault => Program.exists_of_ofTokens_error, ?_, ?_⟩
  · intro ts program inputs limits logged r hread hr budget fault loc hfault hloc
    exact hr.exists_of_fault hread hfault hloc
  · intro text inputs limits logged failure loc hfailure hloc
    cases hlex : Token.lexProgram text with
    | error missing =>
      -- The lines that open the program are missing, and there are no tokens.
      unfold Session.executeLogged at hfailure
      rw [hlex] at hfailure
      cases hfailure
      cases hloc
      exact .inl ⟨missing, rfl, rfl, rfl⟩
    | ok ts =>
      have hplace : ∃ t ∈ ts, t.loc = loc := by
        rcases Session.failure_of_lexProgram hlex hfailure with
          ⟨fault, hread, rfl⟩ | ⟨program, halt, hread, hrun, rfl⟩
        · cases hloc
          exact Program.exists_of_ofTokens_error hread
        · cases halt with
          | outOfBudget => cases hloc
          | fault fault => exact Runner.Later.self.exists_of_fault hread hrun hloc
      obtain ⟨t, ht, htloc⟩ := hplace
      exact .inr ⟨ts, t, rfl, ht, htloc, Token.standsIn_of_mem_lexProgram hlex ht⟩

/-- A program with nothing but an empty statement, which has no place of its own. -/
def doesNothing : String :=
  "#include<iostream>\n#include<cstdio>\nusing namespace std;\n" ++ "int main()\x7b;\x7d"

/-- The limit on steps that the empty statement exceeds is reported at the name of the function. -/
theorem reported_places_are_real_doesNothing :
    (Session.executeLogged doesNothing [] ⟨some 0, 0, none⟩ false).failure =
        some (.runtime (.stepLimit 0 ⟨4, 5⟩)) ∧
      ∃ ts t, Token.lexProgram doesNothing = .ok ts ∧ t ∈ ts ∧ t.loc = ⟨4, 5⟩ ∧
        t.StandsIn doesNothing := by
  have hlex : Token.lexProgram doesNothing = .ok [⟨"int", ⟨4, 1⟩⟩, ⟨"main", ⟨4, 5⟩⟩, ⟨"(", ⟨4, 9⟩⟩,
    ⟨")", ⟨4, 10⟩⟩, ⟨"\x7b", ⟨4, 11⟩⟩, ⟨";", ⟨4, 12⟩⟩, ⟨"\x7d", ⟨4, 13⟩⟩] := rfl
  have hfailure : (Session.executeLogged doesNothing [] ⟨some 0, 0, none⟩ false).failure =
      some (.runtime (.stepLimit 0 ⟨4, 5⟩)) :=
    congrArg Execution.failure (Session.executeLogged_of_lexProgram hlex _ _ _)
  refine ⟨hfailure, ?_⟩
  rcases reported_places_are_real.2.2 doesNothing [] ⟨some 0, 0, none⟩ false _ ⟨4, 5⟩ hfailure rfl with
    ⟨missing, hmissing, -⟩ | hreal
  · rw [hlex] at hmissing
    cases hmissing
  · exact hreal

end Stepwise
