import Stepwise.Grammar.Extent
import Stepwise.Proofs.ExpressionReading

/-!
# Searches among bracketed tokens

The extents of statements are found by counting brackets. A piece whose brackets match is
transparent to such a search: the count is the same behind it as before it, and if what is searched
does not stand outside brackets in it, the search goes on behind it. `Bracketed` describes these
pieces, and all written expressions are of this kind (`Expression.Written.bracketed`).
-/

namespace Stepwise

/-! ## Section 1: Matching brackets -/

/-- The texts that the searches for extents look at. -/
def structureTexts : List String :=
  ["(", ")", "[", "]", "\x7b", "\x7d", ";", ","]

/-- Tokens without semicolons and braces whose parentheses and index brackets match. A comma may
stand outside brackets only if `commas` says so. -/
inductive Bracketed : Bool → List Token → Prop where
  | nil {commas : Bool} : Bracketed commas []
  | token {commas : Bool} {t : Token} (ht : t.text ∉ structureTexts) : Bracketed commas [t]
  | comma {t : Token} (ht : t.text = ",") : Bracketed true [t]
  | append {commas : Bool} {ts us : List Token} (hts : Bracketed commas ts)
      (hus : Bracketed commas us) : Bracketed commas (ts ++ us)
  | brackets {commas : Bool} {ts : List Token} {o c : Token}
      (hoc : o.text = "(" ∧ c.text = ")" ∨ o.text = "[" ∧ c.text = "]") (hts : Bracketed true ts) :
      Bracketed commas (o :: ts ++ [c])

/-- Where no comma stands outside brackets, commas may be allowed there. -/
theorem Bracketed.loosen {commas : Bool} {ts : List Token} (h : Bracketed commas ts) :
    Bracketed true ts := by
  induction h with
  | nil => exact .nil
  | token ht => exact .token ht
  | comma ht => exact .comma ht
  | append _ _ ihts ihus => exact .append ihts ihus
  | brackets hoc hts _ => exact .brackets hoc hts

/-- A token and what follows it. -/
theorem Bracketed.cons {commas : Bool} {t : Token} {ts : List Token} (ht : t.text ∉ structureTexts)
    (hts : Bracketed commas ts) : Bracketed commas (t :: ts) :=
  .append (.token ht) hts

/-- No semicolon and no brace stands in a bracketed piece. -/
theorem Bracketed.text_ne {commas : Bool} {ts : List Token} (h : Bracketed commas ts) :
    ∀ t ∈ ts, t.text ∉ [";", "\x7b", "\x7d"] := by
  induction h with
  | nil => exact fun _ hmem => absurd hmem List.not_mem_nil
  | @token _ t ht =>
    intro t' hmem hstructure
    rw [List.mem_singleton] at hmem
    have hsub : ∀ text ∈ [";", "\x7b", "\x7d"], text ∈ structureTexts := by decide
    exact ht (hmem ▸ hsub _ hstructure)
  | comma ht =>
    intro t' hmem
    rw [List.mem_singleton] at hmem
    rw [hmem, ht]
    decide
  | append _ _ ihts ihus =>
    intro t hmem
    rcases List.mem_append.mp hmem with hmem | hmem
    · exact ihts t hmem
    · exact ihus t hmem
  | @brackets _ ts o c hoc _ ih =>
    intro t hmem
    simp only [List.mem_append, List.mem_cons, List.not_mem_nil, or_false] at hmem
    rcases hmem with (rfl | hmem) | rfl
    · rcases hoc with h | h <;> rw [h.1] <;> decide
    · exact ih t hmem
    · rcases hoc with h | h <;> rw [h.2] <;> decide

namespace Expression

theorem not_mem_structureTexts_of_isWord {t : Token} (h : t.isWord = true) :
    t.text ∉ structureTexts := by
  intro hmem
  have hall : ∀ text ∈ structureTexts, (Token.mk text .start).isWord = false := by decide
  rw [show t.isWord = false from hall t.text hmem] at h
  cases h

theorem IsVariableName.not_mem_structureTexts {t : Token} (h : IsVariableName t.text) :
    t.text ∉ structureTexts := by
  have hname : t.isName = true := h.1
  rw [Token.isName, Bool.and_eq_true] at hname
  exact not_mem_structureTexts_of_isWord hname.1

theorem IsNumeralOf.not_mem_structureTexts {value : Int32} {t : Token}
    (h : IsNumeralOf value t.text) : t.text ∉ structureTexts := by
  obtain ⟨c, cs, hcs, hdigits⟩ := h.digits
  apply not_mem_structureTexts_of_isWord
  rw [Token.isWord, hcs]
  simp only [List.isEmpty_cons, Bool.not_false, Bool.true_and, List.all_eq_true, Token.isWordChar,
    Bool.or_eq_true]
  exact fun d hd => .inl (.inl (.inl (hdigits d hd)))

mutual

/-- The brackets of a written expression match, and its commas stand inside them. -/
theorem Written.bracketed {p : Nat} {e : Node} {ts : List Token} :
    Written p e ts → Bracketed false ts
  | .literal ht => .token ht.not_mem_structureTexts
  | .endl ht => .token (by rw [ht]; decide)
  | .plain ht => .token ht.not_mem_structureTexts
  | .index hvar ho hindex hc => by
    rw [List.append_assoc]
    exact .append hvar.bracketed (.brackets (.inr ⟨ho, hc⟩) hindex.bracketed.loosen)
  | .call ht ho hargs hc =>
    .cons ht.not_mem_structureTexts (.brackets (.inl ⟨ho, hc⟩) hargs.bracketed)
  | @Written.unary _ op _ _ _ _ _ ht hoperand => by
    have hspellings : ∀ text ∈ op.spellings, text ∉ structureTexts := by cases op <;> decide
    exact .cons (hspellings _ ht) hoperand.bracketed
  | @Written.binary _ op _ _ _ _ _ _ _ hleft ht hright => by
    have hsymbol : op.symbol ∉ structureTexts := by cases op <;> decide
    exact .append hleft.bracketed (.cons (ht ▸ hsymbol) hright.bracketed)
  | .assignment _ htarget ht hvalue =>
    .append htarget.bracketed (.cons (by rw [ht]; decide) hvalue.bracketed)
  | .input ht => .token (by rw [ht]; decide)
  | .extract _ hinput ht htarget =>
    .append hinput.bracketed (.cons (by rw [ht]; decide) htarget.bracketed)
  | .output ht => .token (by rw [ht]; decide)
  | .insert _ houtput ht hitem =>
    .append houtput.bracketed (.cons (by rw [ht]; decide) hitem.bracketed)
  | .paren ho he hc => .brackets (.inl ⟨ho, hc⟩) he.bracketed.loosen

/-- Between the parentheses of a call, commas stand outside further brackets. -/
theorem WrittenArgs.bracketed {args : List Node} {ts : List Token} :
    WrittenArgs args ts → Bracketed true ts
  | .none => .nil
  | .one he => he.bracketed.loosen
  | .more _ hargs ht he => .append hargs.bracketed (.append (.comma ht) he.bracketed.loosen)

end

end Expression

/-! ## Section 2: Searching for a separator -/

namespace Extent

/-- No `separator` stands outside brackets, `depth` of them being open before the first token. -/
def Clear (separator : String) (depth : Nat) : List Token → Prop
  | [] => True
  | t :: ts => ¬ (t.text = separator ∧ depth = 0) ∧ Clear separator (depthAfter depth t) ts

/-- Two clear pieces are clear together, if the second one is at the depth that the first one leaves. -/
theorem Clear.append {separator : String} {depth : Nat} {ts us : List Token}
    (hts : Clear separator depth ts) (hus : Clear separator (ts.foldl depthAfter depth) us) :
    Clear separator depth (ts ++ us) := by
  induction ts generalizing depth with
  | nil => exact hus
  | cons t ts ih => exact ⟨hts.1, ih hts.2 hus⟩

/-- Behind a clear piece that leaves no bracket open, the separator is found. -/
theorem partAt_of_clear {separator : String} {depth : Nat} {ts : List Token}
    (hclear : Clear separator depth ts) (hdepth : ts.foldl depthAfter depth = 0) {mark : Token}
    (hmark : mark.text = separator) (rest : List Token) :
    partAt separator depth (ts ++ mark :: rest) = some ⟨ts, mark, rest⟩ := by
  induction ts generalizing depth with
  | nil =>
    obtain rfl : depth = 0 := hdepth
    rw [List.nil_append, partAt, if_pos ⟨hmark, rfl⟩]
  | cons t ts ih =>
    rw [List.cons_append, partAt, if_neg hclear.1, ih hclear.2 hdepth]
    rfl

theorem countOf_of_clear {separator : String} {depth : Nat} {ts : List Token}
    (hclear : Clear separator depth ts) : countOf separator depth ts = 0 := by
  induction ts generalizing depth with
  | nil => rfl
  | cons t ts ih => rw [countOf, if_neg hclear.1, ih hclear.2]

theorem splitAt_of_clear {separator : String} {depth : Nat} {ts : List Token}
    (hclear : Clear separator depth ts) : splitAt separator depth ts = [ts] := by
  induction ts generalizing depth with
  | nil => rfl
  | cons t ts ih =>
    rw [splitAt, if_neg hclear.1, ih hclear.2]
    rfl

/-- There the list is divided. -/
theorem splitAt_mark {separator : String} {depth : Nat} {ts : List Token}
    (hclear : Clear separator depth ts) (hdepth : ts.foldl depthAfter depth = 0) {mark : Token}
    (hmark : mark.text = separator) (rest : List Token) :
    splitAt separator depth (ts ++ mark :: rest) = ts :: splitAt separator 0 rest := by
  induction ts generalizing depth with
  | nil =>
    obtain rfl : depth = 0 := hdepth
    rw [List.nil_append, splitAt, if_pos ⟨hmark, rfl⟩]
  | cons t ts ih =>
    rw [List.cons_append, splitAt, if_neg hclear.1, ih hclear.2 hdepth]
    rfl

end Extent

open Extent

theorem depthAfter_of_not_mem {t : Token} (ht : t.text ∉ structureTexts) (depth : Nat) :
    depthAfter depth t = depth := by
  simp only [structureTexts, List.mem_cons, List.not_mem_nil, or_false, not_or] at ht
  simp only [depthAfter, ht, or_self, if_false]

theorem depthAfter_opener {o : Token} (ho : o.text = "(" ∨ o.text = "[") (depth : Nat) :
    depthAfter depth o = depth + 1 := if_pos ho

theorem depthAfter_closer {c : Token} (hc : c.text = ")" ∨ c.text = "]") (depth : Nat) :
    depthAfter (depth + 1) c = depth := by
  rcases hc with hc | hc <;> simp [depthAfter, hc]

/-- As many brackets are open behind a bracketed piece as before it. -/
theorem Bracketed.foldl_depthAfter {commas : Bool} {ts : List Token} (h : Bracketed commas ts)
    (depth : Nat) : ts.foldl depthAfter depth = depth := by
  induction h generalizing depth with
  | nil => rfl
  | token ht => exact depthAfter_of_not_mem ht depth
  | comma ht => simp [depthAfter, ht]
  | append _ _ ihts ihus => rw [List.foldl_append, ihts, ihus]
  | brackets hoc _ ih =>
    rw [List.cons_append, List.foldl_cons, depthAfter_opener (hoc.imp And.left And.left),
      List.foldl_append, ih]
    exact depthAfter_closer (hoc.imp And.right And.right) depth

/-- A bracketed piece has no semicolon, and no comma that is not allowed or inside brackets. -/
theorem Bracketed.clear {commas : Bool} {ts : List Token} (h : Bracketed commas ts)
    {separator : String} {depth : Nat}
    (hsep : separator = ";" ∨ separator = "," ∧ (commas = false ∨ 0 < depth)) :
    Clear separator depth ts := by
  have hmem : separator ∈ structureTexts := by
    rcases hsep with rfl | ⟨rfl, -⟩ <;> decide
  induction h generalizing depth with
  | nil => trivial
  | token ht => exact ⟨fun hmark => ht (hmark.1 ▸ hmem), trivial⟩
  | comma ht =>
    refine ⟨fun hmark => ?_, trivial⟩
    rcases hsep with rfl | ⟨rfl, hfalse | hpos⟩
    · exact absurd (ht.symm.trans hmark.1) (by decide)
    · cases hfalse
    · exact absurd hmark.2 (Nat.ne_of_gt hpos)
  | append hts _ ihts ihus =>
    refine (ihts hsep).append ?_
    rw [hts.foldl_depthAfter]
    exact ihus hsep
  | @brackets commas ts o c hoc hts ih =>
    -- Inside the brackets the depth is positive, so that commas there do not count.
    have hinside : separator = ";" ∨ separator = "," ∧ (true = false ∨ 0 < depth + 1) :=
      hsep.imp_right fun hcomma => ⟨hcomma.1, .inr (Nat.succ_pos depth)⟩
    -- The brackets themselves are no separators.
    have hne : ∀ t : Token, t.text ∈ ["(", ")", "[", "]"] → t.text ≠ separator := by
      rintro t ht rfl
      rcases hsep with hsep | ⟨hsep, -⟩ <;> rw [hsep] at ht <;> exact absurd ht (by decide)
    have ho : o.text ≠ separator := hne o (by rcases hoc with h | h <;> rw [h.1] <;> decide)
    have hc : c.text ≠ separator := hne c (by rcases hoc with h | h <;> rw [h.2] <;> decide)
    refine ⟨fun hmark => ho hmark.1, ?_⟩
    rw [depthAfter_opener (hoc.imp And.left And.left)]
    exact (ih hinside).append ⟨fun hmark => hc hmark.1, trivial⟩

/-! ## Section 3: Searching for a closing bracket -/

/-- Puts tokens in front of a divided list. -/
def Parted.prepend (ts : List Token) (p : Parted) : Parted :=
  { p with before := ts ++ p.before }

/-- The search for a closing bracket passes over these tokens, whatever its count. -/
def Passes (bracket : Bracket) (ts : List Token) : Prop :=
  ∀ depth rest, partAtCloser bracket depth (ts ++ rest) =
    (partAtCloser bracket depth rest).map (Parted.prepend ts)

theorem passes_nil (bracket : Bracket) : Passes bracket [] := by
  intro depth rest
  show partAtCloser bracket depth rest = (partAtCloser bracket depth rest).map id
  rw [Option.map_id, id]

/-- The search passes over two pieces if it passes over each. -/
theorem Passes.append {bracket : Bracket} {ts us : List Token} (hts : Passes bracket ts)
    (hus : Passes bracket us) : Passes bracket (ts ++ us) := by
  intro depth rest
  rw [List.append_assoc, hts, hus, Option.map_map]
  congr 1
  funext p
  simp [Parted.prepend]

theorem passes_token {bracket : Bracket} {t : Token} (ho : t.text ≠ bracket.opener)
    (hc : t.text ≠ bracket.closer) : Passes bracket [t] := by
  intro depth rest
  rw [List.singleton_append, partAtCloser, if_neg ho, if_neg hc]
  rfl

theorem Passes.cons {bracket : Bracket} {t : Token} {ts : List Token}
    (ho : t.text ≠ bracket.opener) (hc : t.text ≠ bracket.closer) (hts : Passes bracket ts) :
    Passes bracket (t :: ts) :=
  (passes_token ho hc).append hts

/-- Brackets of the very kind that is searched for raise the count and lower it again. -/
theorem Passes.enclose {bracket : Bracket} {ts : List Token} {o c : Token}
    (ho : o.text = bracket.opener) (hts : Passes bracket ts) (hc : c.text = bracket.closer) :
    Passes bracket (o :: ts ++ [c]) := by
  have hne : bracket.closer ≠ bracket.opener := by cases bracket <;> decide
  intro depth rest
  rw [List.cons_append, List.cons_append, partAtCloser, if_pos ho, List.append_assoc, hts,
    List.singleton_append, partAtCloser, if_neg (hc ▸ hne), if_pos hc,
    if_neg (Nat.succ_ne_zero depth), Nat.add_sub_cancel, Option.map_map, Option.map_map]
  congr 1
  funext p
  simp [Parted.prepend, Parted.cons]

/-- The search for a closing bracket of any kind passes over bracketed pieces. -/
theorem Bracketed.passes {commas : Bool} {ts : List Token} (h : Bracketed commas ts)
    (bracket : Bracket) : Passes bracket ts := by
  have hmem : bracket.opener ∈ structureTexts ∧ bracket.closer ∈ structureTexts := by
    cases bracket <;> decide
  induction h with
  | nil => exact passes_nil bracket
  | token ht => exact passes_token (fun h => ht (h ▸ hmem.1)) (fun h => ht (h ▸ hmem.2))
  | comma ht =>
    apply passes_token <;> rw [ht] <;> cases bracket <;> decide
  | append _ _ ihts ihus => exact ihts.append ihus
  | brackets hoc _ ih =>
    rcases hoc with ⟨ho, hc⟩ | ⟨ho, hc⟩ <;> cases bracket
    -- Brackets of the kind that is searched for change the count, those of other kinds do not.
    case inl.paren | inr.square => exact ih.enclose ho hc
    all_goals
      refine .cons ?_ ?_ (ih.append (passes_token ?_ ?_)) <;>
        simp [ho, hc, Bracket.opener, Bracket.closer]

/-- Where the search passes over what is inside, the closing bracket behind it is found. -/
theorem enclosed_of_passes {bracket : Bracket} {ts : List Token} {o c : Token}
    (ho : o.text = bracket.opener) (hts : Passes bracket ts) (hc : c.text = bracket.closer)
    (whole : Location) (rest : List Token) :
    enclosed whole bracket (o :: ts ++ c :: rest) = .ok ⟨o, ts, c, rest⟩ := by
  have hne : bracket.closer ≠ bracket.opener := by cases bracket <;> decide
  have hpart : partAtCloser bracket 0 (ts ++ c :: rest) = some ⟨ts, c, rest⟩ := by
    rw [hts, partAtCloser, if_neg (hc ▸ hne), if_pos hc, if_pos rfl]
    simp [Parted.prepend]
  rw [List.cons_append, enclosed, if_pos ho, hpart]

end Stepwise
