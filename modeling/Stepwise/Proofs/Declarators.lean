import Stepwise.Proofs.StatementDivision

/-!
# One declarator after the other

A declaration of several names is read by dividing it at its commas, and it is found in the first place
by looking for its semicolon. Both searches count parentheses and index brackets as one kind, and a
closing bracket too many does not count for them. Sizes are passed over by a search of its own, which
counts square brackets only. So there are odd sizes, with parentheses in them that do not match, on
which these searches do not agree about how many brackets are open.

They need not agree. A declarator that can be read as a declaration by itself has its semicolon outside
all brackets. So no bracket is open behind the declarator, whatever stands in it, and a comma in the
place of the semicolon stands outside all brackets as well.

## Main results

* `Extent.clear_of_partAt`, `Extent.clear_of_splitAt`: what a search has passed over.
* `Declaration.exists_of_declarator`: what is read of a declarator, and what is passed over.
* `Declaration.Part.StandsAlone.isDeclarator`: what is known of a declarator that can be read by itself.
* `Declaration.declarators_read_in_turn`: such declarators are read together as they are read alone.
-/

namespace Stepwise

open Expression (Reading Gives exists_of_bind_ok ok_of_bind)

/-! ## Section 1: What a search has passed over -/

namespace Extent

variable {separator : String} {depth : Nat} {ts : List Token}

/-- Before the separator that has been found there is none, and no bracket is open behind that. -/
theorem clear_of_partAt {p : Parted} (h : partAt separator depth ts = some p) :
    Clear separator depth p.before ∧ p.before.foldl depthAfter depth = 0 := by
  induction ts generalizing depth p with
  | nil => cases h
  | cons t ts ih =>
    rw [partAt] at h
    split at h
    · next hmark =>
      cases h
      exact ⟨trivial, hmark.2⟩
    · next hmark =>
      obtain ⟨q, hq, rfl⟩ := Option.map_eq_some_iff.mp h
      obtain ⟨hclear, hdepth⟩ := ih hq
      exact ⟨⟨hmark, hclear⟩, hdepth⟩

theorem consFirst_ne_nil (t : Token) (pieces : List (List Token)) : consFirst t pieces ≠ [] := by
  cases pieces with
  | nil => exact List.cons_ne_nil _ _
  | cons piece pieces => exact List.cons_ne_nil _ _

theorem splitAt_ne_nil (separator : String) (depth : Nat) (ts : List Token) :
    splitAt separator depth ts ≠ [] := by
  cases ts with
  | nil => exact List.cons_ne_nil _ _
  | cons t ts =>
    rw [splitAt]
    split
    · exact List.cons_ne_nil _ _
    · exact consFirst_ne_nil _ _

/-- What is left in one piece has no separator in it. -/
theorem clear_of_splitAt {piece : List Token} (h : splitAt separator depth ts = [piece]) :
    Clear separator depth ts := by
  induction ts generalizing depth piece with
  | nil => trivial
  | cons t ts ih =>
    rw [splitAt] at h
    split at h
    · -- A separator would leave a second piece.
      exact absurd (List.cons.inj h).2 (splitAt_ne_nil separator depth ts)
    · next hmark =>
      refine ⟨hmark, ?_⟩
      cases hrest : splitAt separator (depthAfter depth t) ts with
      | nil => exact absurd hrest (splitAt_ne_nil _ _ _)
      | cons first others =>
        rw [hrest, consFirst, List.cons.injEq] at h
        rw [h.2] at hrest
        exact ih hrest

end Extent

/-! ## Section 2: What is read of a declarator -/

/-- The name that a node declares, if it declares one. -/
def Node.declaredName? : Node → Option String
  | .declaration name _ => some name
  | _ => none

namespace Declaration

open Extent (Ends Clear depthAfter)

variable {whole loc : Location} {ts : List Token} {nodes : List Node}

/-- Sizes in brackets, one behind the other. What stands between the brackets can be anything, as long
as the square brackets in it match. -/
inductive Sizes : List Token → Prop where
  | nil : Sizes []
  | cons {o c : Token} {inside more : List Token} (ho : o.text = "[")
      (hclosed : Extent.partAtCloser .square 0 (inside ++ [c]) = some ⟨inside, c, []⟩)
      (hmore : Sizes more) : Sizes (o :: (inside ++ c :: more))

/-- Some tokens in brackets and some sizes behind them are sizes. -/
theorem Sizes.of_enclosed {e : Enclosed} {more : List Token}
    (h : Extent.enclosed whole .square ts = .ok e) (hmore : Sizes more) :
    Sizes (e.bracketed ++ more) := by
  have hshort := Extent.enclosed_front h whole []
  rw [Enclosed.bracketed_append, Extent.enclosed] at hshort
  rw [Enclosed.bracketed_append]
  split at hshort
  · next ho =>
    split at hshort
    · next p hp =>
      cases p
      cases hshort
      exact .cons ho hp hmore
    · cases hshort
  · cases hshort

/-- What is passed over are sizes. -/
theorem exists_sizes {rest : List Token} (h : skipSizes whole ts = .ok rest) :
    ∃ sizes, Sizes sizes ∧ ts = sizes ++ rest := by
  induction hlength : ts.length using Nat.strongRecOn generalizing ts with
  | ind n ih =>
    subst hlength
    cases ts with
    | nil =>
      rw [skipSizes] at h
      cases h
      exact ⟨[], .nil, rfl⟩
    | cons t ts =>
      rw [skipSizes_cons] at h
      split at h
      · obtain ⟨size, hsize, h⟩ := exists_of_bind_ok h
        obtain ⟨sizes, hsizes, hafter⟩ := ih _ (Extent.length_after_lt hsize) h rfl
        refine ⟨size.bracketed ++ sizes, .of_enclosed hsize hsizes, ?_⟩
        rw [← Extent.enclosed_tokens hsize, List.append_assoc, ← hafter,
          Enclosed.bracketed_append, Enclosed.tokens]
      · cases h
        exact ⟨[], .nil, rfl⟩

/-- A declarator is a name, sizes and an initial value, and what is read of it is read of the name and
of the initial value alone. -/
theorem exists_of_declarator (h : declarator whole loc ts = .ok nodes) :
    ∃ first sizes rest assigned, ts = first :: (sizes ++ rest) ∧ Sizes sizes ∧
      initializer first rest = .ok assigned ∧
      nodes = .declaration first.text first.loc :: assigned := by
  cases ts with
  | nil => cases h
  | cons first ts =>
    obtain ⟨text, htext, h⟩ := exists_of_bind_ok h
    obtain ⟨rest, hrest, h⟩ := exists_of_bind_ok h
    obtain ⟨assigned, hassigned, h⟩ := exists_of_bind_ok h
    cases h
    obtain ⟨sizes, hsizes, rfl⟩ := exists_sizes hrest
    obtain ⟨rfl, -⟩ := gives_name first text htext
    exact ⟨first, sizes, rest, assigned, rfl, hsizes, hassigned, rfl⟩

/-- An initial value declares nothing. -/
theorem declares_nothing_of_initializer {first : Token} (h : initializer first ts = .ok nodes) :
    nodes.filterMap Node.declaredName? = [] := by
  cases ts with
  | nil =>
    cases h
    rfl
  | cons t value =>
    rw [initializer] at h
    split at h
    · split at h
      · cases h
      · obtain ⟨value, -, h⟩ := exists_of_bind_ok h
        cases h
        rfl
    · cases h

/-- There are as many names declared as there are declarators. -/
theorem length_names {pieces : List (List Token)} (h : declarators whole loc pieces = .ok nodes) :
    (nodes.filterMap Node.declaredName?).length = pieces.length := by
  induction pieces generalizing nodes with
  | nil =>
    cases h
    rfl
  | cons piece pieces ih =>
    obtain ⟨first, hfirst, h⟩ := exists_of_bind_ok h
    obtain ⟨more, hmore, h⟩ := exists_of_bind_ok h
    cases h
    obtain ⟨name, sizes, rest, assigned, -, -, hassigned, rfl⟩ := exists_of_declarator hfirst
    -- The name of the declarator itself, and none from its initial value.
    have hone : Node.declaredName? (.declaration name.text name.loc) = some name.text := rfl
    rw [List.filterMap_append, List.filterMap_cons_some hone,
      declares_nothing_of_initializer hassigned, List.length_append, ih hmore, List.length_singleton,
      List.length_cons, Nat.add_comm]

/-- A declarator is read alike wherever its faults would be reported. -/
theorem declarator_places (h : declarator whole loc ts = .ok nodes) (whole' loc' : Location) :
    declarator whole' loc' ts = .ok nodes := by
  cases ts with
  | nil => cases h
  | cons first ts => exact declarator_ends whole whole' loc (first :: ts) nodes h

/-! ## Section 3: Declarators that can be read alone -/

/-- Some tokens of a declaration, and the nodes that they stand for. -/
structure Part where
  tokens : List Token
  nodes : List Node

/-- Between a type and a semicolon of its own, a part is a single statement, which declares one name and
is read as the nodes of the part. -/
def Part.StandsAlone (part : Part) : Prop :=
  ∃ (whole : Location) (ends : Ends) (type semicolon : Token) (name : String),
    type.text = "int" ∧ semicolon.text = ";" ∧
    Extent.statement ends (type :: (part.tokens ++ [semicolon])) =
      .ok ⟨type :: (part.tokens ++ [semicolon]), []⟩ ∧
    Statement.readAll whole (type :: (part.tokens ++ [semicolon])) = .ok part.nodes ∧
    part.nodes.filterMap Node.declaredName? = [name]

/-- A part that is read as a declarator and that both searches pass over: neither a semicolon nor a
comma stands outside brackets in it, and behind it no bracket is open. -/
structure Part.IsDeclarator (part : Part) : Prop where
  noSemicolon : Clear ";" 0 part.tokens
  noComma : Clear "," 0 part.tokens
  closed : part.tokens.foldl depthAfter 0 = 0
  reads (whole loc : Location) : declarator whole loc part.tokens = .ok part.nodes

/-- A single statement that begins with a type is read as a declaration. -/
theorem read_of_readAll {ends : Ends} {type : Token} (htype : type.text = "int")
    (hextent : Extent.statement ends (type :: ts) = .ok ⟨type :: ts, []⟩)
    (h : Statement.readAll whole (type :: ts) = .ok nodes) : read whole type.loc ts = .ok (nodes, []) := by
  obtain ⟨first, rest, more, hround, hmore, rfl⟩ := Statement.readAll_cons.mp h
  obtain ⟨cut, hcut, hrest, -⟩ := hround.extent ends
  -- Nothing is left behind the statement, and so the first round has read everything.
  obtain rfl : rest = [] := by
    rw [hextent] at hcut
    cases hcut
    exact hrest.symm
  cases hmore
  rw [List.append_nil]
  cases hround with
  | statement hother _ => exact absurd htype hother
  | declaration _ hread => exact hread

/-- A part that can be read alone is a declarator: its semicolon has been found outside brackets, and one
name alone means that no comma has been found there. -/
theorem Part.StandsAlone.isDeclarator {part : Part} (h : part.StandsAlone) : part.IsDeclarator := by
  obtain ⟨whole, ends, type, semicolon, name, htype, -, hextent, hreads, hname⟩ := h
  obtain ⟨p, hp, h⟩ := exists_of_bind_ok (read_of_readAll htype hextent hreads)
  obtain ⟨nodes, hnodes, h⟩ := exists_of_bind_ok h
  have hafter : p.after = [] := congrArg Prod.snd (Except.ok.inj h)
  obtain rfl : nodes = part.nodes := congrArg Prod.fst (Except.ok.inj h)
  -- The semicolon is the last token, and the part is what stands before it.
  have hbefore : p.before = part.tokens := by
    have htokens := Extent.semicolon_tokens hp
    rw [Parted.tokens, hafter] at htokens
    exact (List.append_inj' htokens rfl).1
  -- As many pieces as names, so there is only one, and no comma stands in it.
  have hsplit : ∃ piece, Extent.splitAt "," 0 p.before = [piece] := by
    have hlength := length_names hnodes
    rw [hname] at hlength
    exact List.length_eq_one_iff.mp hlength.symm
  rw [hbefore] at hsplit hnodes
  obtain ⟨piece, hpiece⟩ := hsplit
  have hcomma := Extent.clear_of_splitAt hpiece
  rw [Extent.splitAt_of_clear hcomma] at hnodes
  rw [Extent.semicolon] at hp
  split at hp
  · next hpart =>
    cases hp
    obtain ⟨hclear, hclosed⟩ := Extent.clear_of_partAt hpart
    rw [hbefore] at hclear hclosed
    refine ⟨hclear, hcomma, hclosed, fun whole' loc' => ?_⟩
    obtain ⟨first, hfirst, hnodes⟩ := exists_of_bind_ok hnodes
    have hsame : first ++ [] = part.nodes := Except.ok.inj hnodes
    rw [← hsame, List.append_nil]
    exact declarator_places hfirst whole' loc'
  · cases hp

/-! ## Section 4: Declarators together -/

/-- Parts with the commas before all but the first. -/
def together (first : Part) (more : List (Token × Part)) : List Token :=
  first.tokens ++ more.flatMap fun next => next.1 :: next.2.tokens

variable {first : Part} {more : List (Token × Part)}

theorem together_cons (first next : Part) (comma : Token) (more : List (Token × Part)) :
    together first ((comma, next) :: more) = first.tokens ++ comma :: together next more := by
  simp [together]

/-- The commas between declarators are the only ones at which they are divided. -/
theorem splitAt_together (hfirst : first.IsDeclarator)
    (hmore : ∀ next ∈ more, next.1.text = "," ∧ next.2.IsDeclarator) :
    Extent.splitAt "," 0 (together first more) = first.tokens :: more.map (·.2.tokens) := by
  induction more generalizing first with
  | nil =>
    rw [together, List.flatMap_nil, List.append_nil]
    exact Extent.splitAt_of_clear hfirst.noComma
  | cons next more ih =>
    obtain ⟨⟨hcomma, hnext⟩, hmore⟩ := List.forall_mem_cons.mp hmore
    rw [together_cons, Extent.splitAt_mark hfirst.noComma hfirst.closed hcomma, ih hnext hmore,
      List.map_cons]

/-- No semicolon stands outside brackets among declarators, and behind them no bracket is open. -/
theorem clear_together (hfirst : first.IsDeclarator)
    (hmore : ∀ next ∈ more, next.1.text = "," ∧ next.2.IsDeclarator) :
    Clear ";" 0 (together first more) ∧ (together first more).foldl depthAfter 0 = 0 := by
  induction more generalizing first with
  | nil =>
    rw [together, List.flatMap_nil, List.append_nil]
    exact ⟨hfirst.noSemicolon, hfirst.closed⟩
  | cons next more ih =>
    obtain ⟨⟨hcomma, hnext⟩, hmore⟩ := List.forall_mem_cons.mp hmore
    obtain ⟨hclear, hclosed⟩ := ih hnext hmore
    -- A comma opens and closes no bracket.
    have hdepth : depthAfter 0 next.1 = 0 := by simp [depthAfter, hcomma]
    rw [together_cons]
    constructor
    · refine hfirst.noSemicolon.append ?_
      rw [hfirst.closed]
      refine ⟨fun hmark => ?_, ?_⟩
      · exact absurd (hcomma.symm.trans hmark.1) (by decide)
      · rw [hdepth]
        exact hclear
    · rw [List.foldl_append, hfirst.closed, List.foldl_cons, hdepth]
      exact hclosed

theorem declarators_together (hfirst : first.IsDeclarator)
    (hmore : ∀ next ∈ more, next.1.text = "," ∧ next.2.IsDeclarator) (whole loc : Location) :
    declarators whole loc (first.tokens :: more.map (·.2.tokens)) =
      .ok (first.nodes ++ more.flatMap (·.2.nodes)) := by
  induction more generalizing first with
  | nil => exact ok_of_bind (hfirst.reads whole loc) rfl
  | cons next more ih =>
    obtain ⟨⟨-, hnext⟩, hmore⟩ := List.forall_mem_cons.mp hmore
    exact ok_of_bind (hfirst.reads whole loc) (ok_of_bind (ih hnext hmore) rfl)

/-- Declarators that can be read alone are read together in turn. Put together with commas, they are
divided at these commas and at no other, be it in a call, in an index or in a size; between a type and a
semicolon they are read as the nodes that each of them is read as alone, one after the other; and of
each of them, no more is read than the name and the initial value, and the sizes are passed over. -/
theorem declarators_read_in_turn (hfirst : first.StandsAlone)
    (hmore : ∀ next ∈ more, next.1.text = "," ∧ next.2.StandsAlone) :
    Extent.splitAt "," 0 (together first more) = first.tokens :: more.map (·.2.tokens) ∧
    (∀ (whole : Location) (type semicolon : Token), type.text = "int" → semicolon.text = ";" →
      Statement.readAll whole (type :: (together first more ++ [semicolon])) =
        .ok (first.nodes ++ more.flatMap (·.2.nodes))) ∧
    ∀ part ∈ first :: more.map Prod.snd, ∃ name sizes rest assigned,
      part.tokens = name :: (sizes ++ rest) ∧ Sizes sizes ∧ initializer name rest = .ok assigned ∧
      part.nodes = .declaration name.text name.loc :: assigned := by
  have hdeclarator := hfirst.isDeclarator
  have hdeclarators : ∀ next ∈ more, next.1.text = "," ∧ next.2.IsDeclarator :=
    fun next hnext => (hmore next hnext).imp_right Part.StandsAlone.isDeclarator
  have hsplit := splitAt_together hdeclarator hdeclarators
  refine ⟨hsplit, fun whole type semicolon htype hsemicolon => ?_, ?_⟩
  · obtain ⟨hclear, hclosed⟩ := clear_together hdeclarator hdeclarators
    have hfound : Extent.semicolon type.loc (together first more ++ [semicolon]) =
        .ok ⟨together first more, semicolon, []⟩ := by
      rw [Extent.semicolon, Extent.partAt_of_clear hclear hclosed hsemicolon]
    have hnodes := declarators_together hdeclarator hdeclarators whole type.loc
    rw [← hsplit] at hnodes
    have hread : read whole type.loc (together first more ++ [semicolon]) =
        .ok (first.nodes ++ more.flatMap (·.2.nodes), []) :=
      ok_of_bind hfound (ok_of_bind hnodes rfl)
    rw [← List.append_nil (first.nodes ++ _)]
    exact (Statement.Rounds.round (.declaration htype hread) .nil).readAll_eq
  · intro part hpart
    have hreads : declarator .start .start part.tokens = .ok part.nodes := by
      rcases List.mem_cons.mp hpart with rfl | hpart
      · exact hdeclarator.reads .start .start
      · obtain ⟨next, hnext, rfl⟩ := List.mem_map.mp hpart
        exact (hdeclarators next hnext).2.reads .start .start
    exact exists_of_declarator hreads

/-- `a[)(,]`, whose size ends where the square bracket is closed. -/
def oddSize : Part where
  tokens := [⟨"a", ⟨1, 5⟩⟩, ⟨"[", ⟨1, 6⟩⟩, ⟨")", ⟨1, 7⟩⟩, ⟨"(", ⟨1, 8⟩⟩, ⟨",", ⟨1, 9⟩⟩, ⟨"]", ⟨1, 10⟩⟩]
  nodes := [.declaration "a" ⟨1, 5⟩]

/-- `b = f(x, y)` -/
def callValue : Part where
  tokens := [⟨"b", ⟨1, 13⟩⟩, ⟨"=", ⟨1, 15⟩⟩, ⟨"f", ⟨1, 17⟩⟩, ⟨"(", ⟨1, 18⟩⟩, ⟨"x", ⟨1, 19⟩⟩,
    ⟨",", ⟨1, 20⟩⟩, ⟨"y", ⟨1, 22⟩⟩, ⟨")", ⟨1, 23⟩⟩]
  nodes := [.declaration "b" ⟨1, 13⟩,
    .assignment ⟨"b", [], ⟨1, 13⟩⟩
      (.call "f" [.var ⟨"x", [], ⟨1, 19⟩⟩, .var ⟨"y", [], ⟨1, 22⟩⟩] ⟨1, 17⟩) ⟨1, 15⟩]

theorem standsAlone_oddSize : oddSize.StandsAlone :=
  ⟨.start, ⟨.start, .start⟩, ⟨"int", ⟨1, 1⟩⟩, ⟨";", ⟨1, 11⟩⟩, "a", rfl, rfl, by cbv, by cbv, rfl⟩

theorem standsAlone_callValue : callValue.StandsAlone :=
  ⟨.start, ⟨.start, .start⟩, ⟨"int", ⟨1, 9⟩⟩, ⟨";", ⟨1, 24⟩⟩, "b", rfl, rfl, by cbv, by cbv, rfl⟩

/-- `int a[)(,], b = f(x, y);` is divided at its middle comma only. -/
theorem declarators_read_in_turn_oddSize :
    Extent.splitAt "," 0 (together oddSize [(⟨",", ⟨1, 11⟩⟩, callValue)]) =
      [oddSize.tokens, callValue.tokens] ∧
    Statement.readAll .start (⟨"int", ⟨1, 1⟩⟩ ::
        (together oddSize [(⟨",", ⟨1, 11⟩⟩, callValue)] ++ [⟨";", ⟨1, 24⟩⟩])) =
      .ok [.declaration "a" ⟨1, 5⟩, .declaration "b" ⟨1, 13⟩,
        .assignment ⟨"b", [], ⟨1, 13⟩⟩
          (.call "f" [.var ⟨"x", [], ⟨1, 19⟩⟩, .var ⟨"y", [], ⟨1, 22⟩⟩] ⟨1, 17⟩) ⟨1, 15⟩] := by
  have hmore : ∀ next ∈ [((⟨",", ⟨1, 11⟩⟩ : Token), callValue)],
      next.1.text = "," ∧ next.2.StandsAlone := by
    intro next hnext
    obtain rfl := List.mem_singleton.mp hnext
    exact ⟨rfl, standsAlone_callValue⟩
  obtain ⟨hsplit, hread, -⟩ := declarators_read_in_turn standsAlone_oddSize hmore
  exact ⟨hsplit, hread .start ⟨"int", ⟨1, 1⟩⟩ ⟨";", ⟨1, 24⟩⟩ rfl rfl⟩

end Declaration

end Stepwise
