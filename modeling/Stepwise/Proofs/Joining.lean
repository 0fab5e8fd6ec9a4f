import Stepwise.Proofs.ReadingOn

/-!
# Programs behind programs

If the tokens of one program are put behind those of another, the items of the one are loaded and then
those of the other. What an item takes in does not depend on what follows it, so that nothing is read
across the border. The only thing that the items behind the border notice is which names have been
taken: the first function whose name has been is refused, and if there is none, then every item is
loaded.

## Main results

* `Loading.BeginWith.loadWithin`: a function whose name is taken.
* `Loading.Loads.apart_or_clash`: the first function whose name is taken.
* `Program.loading_composes`: two programs, one behind the other.
-/

namespace Stepwise

namespace Loading

/-! ## Section 1: Items one after the other -/

section

variable {whole : Location} {first : Token} {ts after rest : List Token} {routine : Routine}
  {program program' q : Program} {read : List Routine} {items : Nat}

/-- Every item takes a token at least. -/
theorem Loads.items_le (h : Loads whole program ts items read q) : items ≤ ts.length := by
  induction h with
  | nil => exact Nat.le_refl 0
  | item hitem _ ih =>
    obtain ⟨front, hne, rfl, -⟩ := hitem.front
    have hpos := List.length_pos_iff.mpr hne
    rw [List.length_append]
    omega

/-- Tokens that have been loaded are a program by themselves. -/
theorem Loads.ofTokens (h : Loads whole {} ts items read q) : Program.ofTokens ts = .ok q := by
  rw [Program.ofTokens, load, h.loadWithin (endOf ts) h.items_le]

/-! ## Section 2: The first name that is taken -/

/-- Tokens begin with a function: its type, then its name `first` and all that belongs to it. -/
def BeginWith (whole : Location) (ts : List Token) (first : Token) (routine : Routine) : Prop :=
  ∃ type after rest, type.text = "int" ∧ ts = type :: first :: after ∧
    routineStart? (first :: after) = some (first, after) ∧
    Loading.routine whole first after = .ok (routine, rest)

/-- A function whose name is taken is refused. -/
theorem BeginWith.loadWithin (h : BeginWith whole ts first routine) (whole' : Location)
    (htaken : (program.find? first.text).isSome) (bound : Nat) :
    loadWithin whole' (bound + 1) program ts =
      ⟨[routine], .error ⟨.duplicate first.text, first.loc⟩⟩ := by
  obtain ⟨type, after, rest, htype, rfl, hstart, hroutine⟩ := h
  obtain ⟨hname, hloc⟩ := name_of_routine hroutine
  simp [Loading.loadWithin, htype, hstart, routine_ends hroutine whole', hname, hloc, htaken]

/-- The tokens `ts`, which are loaded into `program` and give `q`, have a first function with a name of
`base`, and fewer than `items` items stand before it. -/
def Clash (base : Program) (whole : Location) (program : Program) (ts : List Token) (items : Nat)
    (q : Program) : Prop :=
  ∃ front back n read before first routine later, ts = front ++ back ∧ n < items ∧
    Loads whole program front n read before ∧ base.Apart before ∧
    BeginWith whole back first routine ∧ (base.find? first.text).isSome ∧
    q.routines = before.routines ++ routine :: later

/-- An item without a name of `base` is one more item in front. -/
theorem Clash.cons {base : Program} (h : Clash base whole program' rest items q)
    (hitem : TakesItem whole program ts program' read rest) :
    Clash base whole program ts (items + 1) q := by
  obtain ⟨front, back, n, read', before, first, routine, later, rfl, hlt, hloads, hclash⟩ := h
  obtain ⟨item, -, rfl, hagain⟩ := hitem.front
  exact ⟨item ++ front, back, n + 1, read ++ read', before, first, routine, later,
    (List.append_assoc _ _ _).symm, Nat.succ_lt_succ hlt, .item (hagain whole front) hloads, hclash⟩

/-- Either no function has a name of `base`, or there is a first one that has. -/
theorem Loads.apart_or_clash (h : Loads whole program ts items read q) {base : Program}
    (hbase : base.Apart program) : base.Apart q ∨ Clash base whole program ts items q := by
  induction h with
  | nil => exact .inl hbase
  | @item program program' q ts rest items read later hitem hrest ih =>
    have hnext : base.Apart program' → base.Apart q ∨ Clash base whole program ts (items + 1) q :=
      fun hbase' => (ih hbase').imp_right fun hclash => hclash.cons hitem
    cases hitem with
    | declaration _ _ _ => exact hnext hbase
    | @routine t first ts after rest routine ht hstart hroutine hnew =>
      obtain ⟨hname, -⟩ := name_of_routine hroutine
      cases hfind : base.find? routine.name with
      | none =>
        -- The name of the function is free, and the first clash is further on.
        refine hnext fun r hr s hs => ?_
        rw [Program.define_of_new hnew, List.mem_append, List.mem_singleton] at hs
        rcases hs with hs | rfl
        · exact hbase r hr s hs
        · exact Program.find?_eq_none.mp hfind r hr
      | some taken =>
        -- The name is taken, and so the first clash is here.
        obtain ⟨paren, inside, -, rfl, rfl⟩ := exists_of_routineStart? hstart
        have hroutines := hrest.routines
        rw [Program.define_of_new hnew, List.append_assoc] at hroutines
        refine .inr ⟨[], _, 0, [], program, first, routine, later, rfl, Nat.succ_pos _, .nil, hbase,
          ⟨t, _, rest, ht, rfl, hstart, hroutine⟩, ?_, hroutines⟩
        rw [← hname, hfind]
        rfl

end

end Loading

/-! ## Section 3: Two programs -/

namespace Program

variable {p q : Program}

theorem join_empty (p : Program) : p.join {} = p := by
  simp [join]

/-- In two programs without a common name, a function is found if one of them has it. -/
theorem find?_join_of_apart (h : p.Apart q) {name : String} {routine : Routine} :
    (p.join q).find? name = some routine ↔
      p.find? name = some routine ∨ q.find? name = some routine := by
  rw [find?_join]
  cases hp : p.find? name with
  | some r =>
    have hq : q.find? name = none := by
      rw [find?_eq_none]
      -- What the one program has, the other one cannot have.
      intro s hs
      have hname : r.name = name := by simpa using List.find?_some hp
      rw [← hname]
      exact (h r (List.mem_of_find?_eq_some hp) s hs).symm
    simp [hq]
  | none => simp

/-- The tokens `ys` of the program `q` have `first` as the name of a function, and it is the first one
there whose name a function of `p` has: the tokens before it are a program without a name of `p`. -/
def FirstClash (p q : Program) (ys : List Token) (first : Token) : Prop :=
  ∃ front back before routine later, ys = front ++ back ∧ ofTokens front = .ok before ∧
    p.Apart before ∧ Loading.BeginWith (Loading.endOf ys) back first routine ∧
    (p.find? first.text).isSome ∧ q.routines = before.routines ++ routine :: later

/-- Loading composes. Two lists of tokens that are programs without a common name of a function are,
one behind the other, the program of both: it has the functions of the one and of the other, and first
the globals of the one and then those of the other. If they have a name in common, the first function of
the second program whose name is taken is refused where its name stands. -/
theorem loading_composes {xs ys : List Token} (hxs : ofTokens xs = .ok p)
    (hys : ofTokens ys = .ok q) :
    (p.Apart q → ofTokens (xs ++ ys) = .ok ⟨p.routines ++ q.routines, p.globals ++ q.globals⟩ ∧
      ∀ name routine, (p.join q).find? name = some routine ↔
        p.find? name = some routine ∨ q.find? name = some routine) ∧
    (¬ p.Apart q → ∃ first, FirstClash p q ys first ∧
      ofTokens (xs ++ ys) = .error ⟨.duplicate first.text, first.loc⟩) := by
  refine ⟨fun hapart => ⟨ofTokens_append hxs hys hapart, fun _ _ => find?_join_of_apart hapart⟩,
    fun hclash => ?_⟩
  obtain ⟨items, hitems, hloads⟩ := Loading.exists_loads hxs
  obtain ⟨items', hitems', hloads'⟩ := Loading.exists_loads hys
  have hempty : p.Apart {} := fun _ _ _ hs => by cases hs
  rcases hloads'.apart_or_clash hempty with hapart |
    ⟨front, back, n, read, before, first, routine, later, rfl, hlt, hfront, hbefore, hbegin, htaken,
      hroutines⟩
  · exact absurd hapart hclash
  · refine ⟨first, ⟨front, back, before, routine, later, rfl, hfront.ofTokens, hbefore, hbegin, htaken,
      hroutines⟩, ?_⟩
    have honto := hfront.onto hbefore
    rw [join_empty] at honto
    have htaken' : ((p.join before).find? first.text).isSome := by
      rw [find?_join, Option.isSome_or, htaken, Bool.true_or]
    -- The items of the first program, those in front of the function, and the function itself.
    obtain ⟨more, hmore⟩ : ∃ more, (xs ++ (front ++ back)).length = items + (n + (more + 1)) := by
      refine ⟨(xs ++ (front ++ back)).length - items - n - 1, ?_⟩
      rw [List.length_append]
      omega
    rw [ofTokens, Loading.load, hmore, hloads.loadWithin_append, honto.loadWithin_append,
      hbegin.loadWithin _ htaken']
    rfl

/-- `int a = k; int f() {} int g() {}` -/
def valueAndTwo : List Token :=
  [⟨"int", ⟨1, 1⟩⟩, ⟨"a", ⟨1, 5⟩⟩, ⟨"=", ⟨1, 7⟩⟩, ⟨"k", ⟨1, 9⟩⟩, ⟨";", ⟨1, 10⟩⟩,
    ⟨"int", ⟨1, 12⟩⟩, ⟨"f", ⟨1, 16⟩⟩, ⟨"(", ⟨1, 17⟩⟩, ⟨")", ⟨1, 18⟩⟩, ⟨"\x7b", ⟨1, 20⟩⟩, ⟨"\x7d", ⟨1, 21⟩⟩,
    ⟨"int", ⟨1, 23⟩⟩, ⟨"g", ⟨1, 27⟩⟩, ⟨"(", ⟨1, 28⟩⟩, ⟨")", ⟨1, 29⟩⟩, ⟨"\x7b", ⟨1, 31⟩⟩, ⟨"\x7d", ⟨1, 32⟩⟩]

/-- `int h() {} int b;` -/
def oneAndName : List Token :=
  [⟨"int", ⟨2, 1⟩⟩, ⟨"h", ⟨2, 5⟩⟩, ⟨"(", ⟨2, 6⟩⟩, ⟨")", ⟨2, 7⟩⟩, ⟨"\x7b", ⟨2, 9⟩⟩, ⟨"\x7d", ⟨2, 10⟩⟩,
    ⟨"int", ⟨2, 12⟩⟩, ⟨"b", ⟨2, 16⟩⟩, ⟨";", ⟨2, 17⟩⟩]

/-- `int g() {} int f() {}` -/
def takenNames : List Token :=
  [⟨"int", ⟨3, 1⟩⟩, ⟨"g", ⟨3, 5⟩⟩, ⟨"(", ⟨3, 6⟩⟩, ⟨")", ⟨3, 7⟩⟩, ⟨"\x7b", ⟨3, 9⟩⟩, ⟨"\x7d", ⟨3, 10⟩⟩,
    ⟨"int", ⟨3, 12⟩⟩, ⟨"f", ⟨3, 16⟩⟩, ⟨"(", ⟨3, 17⟩⟩, ⟨")", ⟨3, 18⟩⟩, ⟨"\x7b", ⟨3, 20⟩⟩, ⟨"\x7d", ⟨3, 21⟩⟩]

/-- A function that does nothing. -/
def idle (name : String) (loc : Location) : Routine :=
  ⟨name, [], .sequence [], loc⟩

/-- The first two parts have no name in common. With the third one behind them, `g` is refused first,
though `f` is defined first. -/
theorem loading_composes_takenNames :
    let p : Program := ⟨[idle "f" ⟨1, 16⟩, idle "g" ⟨1, 27⟩],
      [.declaration "a" ⟨1, 5⟩, .assignment ⟨"a", [], ⟨1, 5⟩⟩ (.var ⟨"k", [], ⟨1, 9⟩⟩) ⟨1, 7⟩]⟩
    let q : Program := ⟨[idle "h" ⟨2, 5⟩], [.declaration "b" ⟨2, 16⟩]⟩
    let q' : Program := ⟨[idle "h" ⟨2, 5⟩, idle "g" ⟨3, 5⟩, idle "f" ⟨3, 16⟩], [.declaration "b" ⟨2, 16⟩]⟩
    ofTokens (valueAndTwo ++ oneAndName) =
        .ok ⟨[idle "f" ⟨1, 16⟩, idle "g" ⟨1, 27⟩, idle "h" ⟨2, 5⟩], p.globals ++ q.globals⟩ ∧
      FirstClash p q' (oneAndName ++ takenNames) ⟨"g", ⟨3, 5⟩⟩ ∧
      ofTokens (valueAndTwo ++ (oneAndName ++ takenNames)) = .error ⟨.duplicate "g", ⟨3, 5⟩⟩ := by
  intro p q q'
  have hp : ofTokens valueAndTwo = .ok p := by cbv
  have hq : ofTokens oneAndName = .ok q := by cbv
  have hq' : ofTokens (oneAndName ++ takenNames) = .ok q' := by cbv
  have hwhole : ofTokens (valueAndTwo ++ (oneAndName ++ takenNames)) =
      .error ⟨.duplicate "g", ⟨3, 5⟩⟩ := by
    cbv
  obtain ⟨⟨text, loc⟩, hfirst, hrefused⟩ := (loading_composes hp hq').2
    (by simp [Apart, p, q', idle])
  rw [hwhole] at hrefused
  cases hrefused
  exact ⟨((loading_composes hp hq).1 (by simp [Apart, p, q, idle])).1, hfirst, hwhole⟩

end Program

end Stepwise
