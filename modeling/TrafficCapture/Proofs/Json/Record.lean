import TrafficCapture.Json.Record
import TrafficCapture.Proofs.Json.Scalar

/-! # Reading back lists and records

A container is read back if everything in it is. A record is written as an object with members in
the order of its fields, some of which may be left out. -/

namespace TrafficCapture.Json

open List

/-! ## The room that is taken -/

mutual

theorem length_lt_write (v : Json) (rest : List Char) : rest.length < (v.write rest).length := by
  cases v with
  | null =>
      simp only [write, length_append, String.length_toList]
      exact Nat.lt_add_of_pos_left (by decide)
  | bool b =>
      cases b <;>
        simp only [write, length_append, String.length_toList] <;>
        exact Nat.lt_add_of_pos_left (by decide)
  | int n =>
      obtain ⟨c, cs, hcons, -⟩ := exists_opens_toString .null n
      simp only [write, hcons, cons_append, length_cons, length_append]
      omega
  | decimal n e =>
      have hmark : "e".length = 1 := rfl
      simp only [write, length_append, String.toList_append, String.length_toList]
      omega
  | text s =>
      simp only [write, writeText, length_cons, length_append]
      omega
  | list items =>
      have hitems := length_writeItems items (']' :: rest)
      simp only [write, length_cons] at hitems ⊢
      omega
  | object members =>
      have hmembers := length_writeMembers members (Char.ofNat 0x7D :: rest)
      simp only [write, length_cons] at hmembers ⊢
      omega

theorem length_writeItems (items : List Json) (rest : List Char) :
    items.length + rest.length ≤ (writeItems items rest).length := by
  match items with
  | [] => simp [writeItems]
  | [item] =>
      have hitem := length_lt_write item rest
      simp only [writeItems, length_cons, length_nil]
      omega
  | item :: next :: items =>
      have hitem := length_lt_write item (',' :: writeItems (next :: items) rest)
      have hitems := length_writeItems (next :: items) rest
      simp only [writeItems, length_cons] at hitem hitems ⊢
      omega

theorem length_writeMembers (members : List (String × Json)) (rest : List Char) :
    members.length + rest.length ≤ (writeMembers members rest).length := by
  match members with
  | [] => simp [writeMembers]
  | [(name, value)] =>
      have hvalue := length_lt_write value rest
      simp only [writeMembers, writeText, length_cons, length_append, length_nil]
      omega
  | (name, value) :: next :: members =>
      have hvalue := length_lt_write value (',' :: writeMembers (next :: members) rest)
      have hmembers := length_writeMembers (next :: members) rest
      simp only [writeMembers, writeText, length_cons, length_append] at hvalue hmembers ⊢
      omega

end

/-! ## Lists -/

/-- What is left of a list behind one of its items. -/
def moreItems (items : List Json) (rest : List Char) : List Char :=
  if items = [] then ']' :: rest else ',' :: writeItems items (']' :: rest)

theorem writeItems_cons (item : Json) (items : List Json) (rest : List Char) :
    writeItems (item :: items) (']' :: rest) = item.write (moreItems items rest) := by
  cases items <;> simp [writeItems, moreItems]

theorem moreItems_cons (item : Json) (items : List Json) (rest : List Char) :
    moreItems (item :: items) rest = ',' :: item.write (moreItems items rest) := by
  rw [moreItems, if_neg (by simp), writeItems_cons]

theorem ends_moreItems (items : List Json) (rest : List Char) : Ends (moreItems items rest) := by
  unfold moreItems
  split
  · exact ends_bracket _
  · exact ends_comma _

theorem nextItem?_write (v : Json) (rest : List Char) :
    nextItem? true (v.write rest) = .ok (some (v.write rest)) ∧
      nextItem? false (',' :: v.write rest) = .ok (some (v.write rest)) := by
  obtain ⟨c, cs, hcons, hopens⟩ := exists_opens v rest
  have hskip : skipBlanks (',' :: v.write rest) = ',' :: v.write rest := skipBlanks_cons rfl _
  rw [nextItem?, nextItem?, hskip, skipBlanks_write, hcons]
  constructor
  · simp [hopens.notBracket]
  · simp [skipBlanks_cons hopens.notBlank, hopens.notBracket]

section

variable {α β : Type} {levels : ℕ} {r : Reader α} {f : α → Json}

theorem enter_of_lt {limits : Limits} (h : levels + 1 < limits.depth) :
    limits.enter = .ok { limits with depth := limits.depth - 1 } := by
  rw [Limits.enter, if_neg (by omega)]

/-- The items that are left are read onto those that have been read. -/
theorem readItems_moreItems {limits : Limits} (hdepth : levels < limits.depth) (rest : List Char)
    {as : List α} (h : ∀ a ∈ as, Reads levels r (f a) a) {done : List α} (hdone : done ≠ [])
    {steps : ℕ} (hsteps : as.length < steps)
    (hroom : (moreItems (as.map f) rest).length ≤ limits.steps) :
    readItems (r limits) steps done (moreItems (as.map f) rest) =
      .ok (done.reverse ++ as, rest) := by
  have hlater : done.isEmpty = false := by simpa using hdone
  induction as generalizing done steps with
  | nil =>
      obtain ⟨steps, rfl⟩ := Nat.exists_eq_succ_of_ne_zero (Nat.ne_of_gt hsteps)
      rw [append_nil]
      rfl
  | cons a as ih =>
      obtain ⟨steps, rfl⟩ := Nat.exists_eq_succ_of_ne_zero (Nat.ne_of_gt (Nat.zero_lt_of_lt hsteps))
      rw [map_cons, moreItems_cons] at hroom ⊢
      rw [length_cons] at hroom hsteps
      have hitem := h a (mem_cons_self ..) limits _ hdepth (ends_moreItems (as.map f) rest)
        (by omega)
      have hmore := length_lt_write (f a) (moreItems (as.map f) rest)
      have hitems := ih (fun b hb => h b (mem_cons_of_mem _ hb)) (cons_ne_nil a done)
        (Nat.lt_of_succ_lt_succ hsteps) (by omega) rfl
      simp only [readItems, hlater, (nextItem?_write _ _).2, bind, Except.bind, hitem, hitems]
      rw [reverse_cons, append_assoc, singleton_append]

theorem reads_list {as : List α} (h : ∀ a ∈ as, Reads levels r (f a) a) :
    Reads (levels + 1) (readList r) (.list (as.map f)) as := by
  intro limits rest hdepth _ hroom
  let inner : Limits := { limits with depth := limits.depth - 1 }
  have hinner : limits.enter = .ok inner := enter_of_lt hdepth
  have hlevels : levels < inner.depth := Nat.lt_sub_of_add_lt hdepth
  have hcount := length_writeItems (as.map f) (']' :: rest)
  rw [readList, skipBlanks_write]
  rw [write] at hroom ⊢
  simp only [length_cons, length_map] at hroom hcount
  simp only [hinner, bind, Except.bind]
  cases as with
  | nil =>
      obtain ⟨steps, hsteps⟩ := Nat.exists_eq_add_of_le' (Nat.zero_lt_of_lt hroom)
      rw [hsteps]
      rfl
  | cons a as =>
      rw [map_cons, writeItems_cons] at hroom hcount ⊢
      rw [length_cons] at hcount
      obtain ⟨steps, hsteps⟩ := Nat.exists_eq_add_of_le' (Nat.zero_lt_of_lt hroom)
      have hmore := length_lt_write (f a) (moreItems (as.map f) rest)
      have hitem := h a (mem_cons_self ..) inner _ hlevels (ends_moreItems (as.map f) rest)
        (Nat.le_of_lt hroom)
      have hitems : readItems (r inner) steps [a] (moreItems (as.map f) rest) =
          .ok ([a].reverse ++ as, rest) :=
        readItems_moreItems hlevels rest (fun b hb => h b (mem_cons_of_mem _ hb))
          (cons_ne_nil a []) (by omega) (Nat.le_of_lt (Nat.lt_trans hmore hroom))
      rw [hsteps]
      simp only [readItems, isEmpty_nil, (nextItem?_write _ _).1, bind, Except.bind, hitem, hitems]
      rfl

/-- Two values are read back from a list of both. -/
theorem reads_pair {s : Reader β} {v w : Json} {a : α} {b : β} (hv : Reads levels r v a)
    (hw : Reads levels s w b) : Reads (levels + 1) (readPair r s) (.list [v, w]) (a, b) := by
  intro limits rest hdepth _ hroom
  let inner : Limits := { limits with depth := limits.depth - 1 }
  have hinner : limits.enter = .ok inner := enter_of_lt hdepth
  have hlevels : levels < inner.depth := Nat.lt_sub_of_add_lt hdepth
  have htext : (Json.list [v, w]).write rest = '[' :: v.write (',' :: w.write (']' :: rest)) := rfl
  have hleft := length_lt_write v (',' :: w.write (']' :: rest))
  rw [readPair, skipBlanks_write]
  rw [htext] at hroom ⊢
  simp only [length_cons] at hroom hleft
  have hfirst := hv inner _ hlevels (ends_comma _) (Nat.le_of_lt hroom)
  have hsecond := hw inner _ hlevels (ends_bracket rest)
    (Nat.le_of_lt (Nat.lt_of_succ_lt (Nat.lt_trans hleft hroom)))
  simp only [hinner, (nextItem?_write _ _).1, (nextItem?_write _ _).2, hfirst, hsecond, bind,
    Except.bind]
  rfl

end

/-! ## Records -/

/-- What is left of an object behind one of its members. -/
def moreMembers (members : List (String × Json)) (rest : List Char) : List Char :=
  if members = [] then Char.ofNat 0x7D :: rest
  else ',' :: writeMembers members (Char.ofNat 0x7D :: rest)

theorem writeMembers_cons (name : String) (value : Json) (members : List (String × Json))
    (rest : List Char) :
    writeMembers ((name, value) :: members) (Char.ofNat 0x7D :: rest) =
      writeText name (':' :: value.write (moreMembers members rest)) := by
  cases members <;> simp [writeMembers, moreMembers]

theorem moreMembers_cons (name : String) (value : Json) (members : List (String × Json))
    (rest : List Char) : moreMembers ((name, value) :: members) rest =
      ',' :: writeText name (':' :: value.write (moreMembers members rest)) := by
  rw [moreMembers, if_neg (by simp), writeMembers_cons]

theorem ends_moreMembers (members : List (String × Json)) (rest : List Char) :
    Ends (moreMembers members rest) := by
  unfold moreMembers
  split
  · exact ends_brace _
  · exact ends_comma _

/-- Members in the order of the fields that they are for make one record out of another. Only a
field that need not be there may go without. -/
inductive Fills {α : Type} (levels : ℕ) :
    List (Field α) → List (String × Json) → α → α → Prop where
  | done {a : α} : Fills levels [] [] a a
  | take {field : Field α} {fields : List (Field α)} {value : Json}
      {members : List (String × Json)} {put : α → α} {a b : α}
      (reads : Reads levels field.update value put) (more : Fills levels fields members (put a) b) :
      Fills levels (field :: fields) ((field.name, value) :: members) a b
  | leave {field : Field α} {fields : List (Field α)} {members : List (String × Json)} {a b : α}
      (optional : field.presence ≠ .required) (more : Fills levels fields members a b) :
      Fills levels (field :: fields) members a b

section

variable {α : Type} {levels : ℕ} {all fields : List (Field α)} {members : List (String × Json)}
  {a b : α}

section

variable {β : Type} {name : String} {r : Reader β} {value : Json} {x : β}

@[simp] theorem Field.name_required {put : β → α → α} : (required name r put).name = name := rfl

@[simp] theorem Field.name_optional {put : Option β → α → α} :
    (optional name r put).name = name := rfl

@[simp] theorem Field.name_defaulted {put : Option β → α → α} :
    (defaulted name r put).name = name := rfl

theorem Fills.required {put : β → α → α} (h : Reads levels r value x)
    (more : Fills levels fields members (put x a) b) :
    Fills levels (.required name r put :: fields) ((name, value) :: members) a b :=
  .take (h.map put) more

variable {put : Option β → α → α} {o : Option β}

theorem Fills.optional (h : Reads levels (readOption r) value o)
    (more : Fills levels fields members (put o a) b) :
    Fills levels (.optional name r put :: fields) ((name, value) :: members) a b :=
  .take (h.map put) more

/-- A member that is left out leaves the record as it is, in which its value is absent. -/
theorem Fills.optionalMember {presence : Presence} {f : β → Json} {rest : List (String × Json)}
    (hpresence : presence ≠ .required) (h : ∀ x, Reads levels r (f x) x) (hf : ∀ x, f x ≠ .null)
    (hblank : put none a = a) (hmembers : members = Json.optionalMember name f o ++ rest)
    (more : Fills levels fields rest (put o a) b) :
    Fills levels (⟨name, presence, Reader.map put (readOption r)⟩ :: fields) members a b := by
  subst hmembers
  cases o with
  | none =>
      rw [hblank] at more
      exact .leave hpresence more
  | some x => exact .take (((h x).some (hf x)).map put) more

end

theorem find?_name {field : Field α} (hnames : (all.map Field.name).Nodup) (h : field ∈ all) :
    all.find? (·.name == field.name) = some field := by
  induction all with
  | nil => cases h
  | cons first all ih =>
      rw [map_cons, nodup_cons] at hnames
      rcases mem_cons.mp h with rfl | h
      · simp
      · have hne : first.name ≠ field.name := fun heq => hnames.1 (heq ▸ mem_map_of_mem h)
        rw [find?_cons_of_neg (by simpa using hne), ih hnames.2 h]

/-- The names that were seen are of fields before those that are left, and no field before those
has to be there and was not seen. -/
structure Passed (all fields : List (Field α)) (seen : List String) : Prop where
  suffix : fields <:+ all
  fresh : ∀ f ∈ fields, f.name ∉ seen
  required : ∀ f ∈ all, f.presence = .required → f.name ∈ seen ∨ f ∈ fields

theorem Passed.take {field : Field α} {seen : List String} (hnames : (all.map Field.name).Nodup)
    (h : Passed all (field :: fields) seen) : Passed all fields (field.name :: seen) where
  suffix := (suffix_cons field fields).trans h.suffix
  fresh := by
    have hfields : ((field :: fields).map Field.name).Nodup :=
      hnames.sublist (h.suffix.sublist.map Field.name)
    rw [map_cons, nodup_cons] at hfields
    intro f hf hseen
    rcases mem_cons.mp hseen with heq | hseen
    · exact hfields.1 (heq ▸ mem_map_of_mem hf)
    · exact h.fresh f (mem_cons_of_mem _ hf) hseen
  required := by
    intro f hf hrequired
    rcases h.required f hf hrequired with hseen | hmem
    · exact .inl (mem_cons_of_mem _ hseen)
    · rcases mem_cons.mp hmem with rfl | hmem
      · exact .inl (mem_cons_self ..)
      · exact .inr hmem

theorem Passed.leave {field : Field α} {seen : List String} (hleft : field.presence ≠ .required)
    (h : Passed all (field :: fields) seen) : Passed all fields seen where
  suffix := (suffix_cons field fields).trans h.suffix
  fresh f hf := h.fresh f (mem_cons_of_mem _ hf)
  required := by
    intro f hf hrequired
    rcases h.required f hf hrequired with hseen | hmem
    · exact .inl hseen
    · rcases mem_cons.mp hmem with rfl | hmem
      · exact absurd hrequired hleft
      · exact .inr hmem

/-- The text of the members that are left: behind others it begins with a comma. -/
def pending (first : Bool) (members : List (String × Json)) (rest : List Char) : List Char :=
  if first then writeMembers members (Char.ofNat 0x7D :: rest) else moreMembers members rest

theorem pending_nil (first : Bool) (rest : List Char) :
    pending first [] rest = Char.ofNat 0x7D :: rest := by
  cases first <;> rfl

theorem nextName?_pending (first : Bool) (name : String) (value : Json)
    (members : List (String × Json)) (rest : List Char) :
    nextName? first (pending first ((name, value) :: members) rest) =
      .ok (some (name.toList.flatMap escape ++
        '"' :: ':' :: value.write (moreMembers members rest))) := by
  cases first
  · rw [pending, if_neg (by simp), moreMembers_cons]
    rfl
  · rw [pending, if_pos rfl, writeMembers_cons]
    rfl

theorem length_pending (first : Bool) (name : String) (value : Json)
    (members : List (String × Json)) (rest : List Char) :
    (value.write (moreMembers members rest)).length <
      (pending first ((name, value) :: members) rest).length := by
  cases first
  · rw [pending, if_neg (by simp), moreMembers_cons]
    simp only [writeText, length_cons, length_append]
    omega
  · rw [pending, if_pos rfl, writeMembers_cons]
    simp only [writeText, length_cons, length_append]
    omega

/-- The members that are left fill the record that was begun. -/
theorem readByName_pending {limits : Limits} (hdepth : levels < limits.depth)
    (hnames : (all.map Field.name).Nodup) (h : Fills levels fields members a b)
    {seen : List String} (hpassed : Passed all fields seen) {steps : ℕ}
    (hsteps : members.length < steps) (first : Bool) (rest : List Char)
    (hroom : (pending first members rest).length ≤ limits.steps) :
    readByName limits all steps seen first a (pending first members rest) = .ok (b, rest) := by
  induction h generalizing seen steps first with
  | done =>
      obtain ⟨steps, rfl⟩ := Nat.exists_eq_succ_of_ne_zero (Nat.ne_of_gt hsteps)
      have hall : (all.all fun f => f.presence != .required || seen.contains f.name) = true := by
        rw [all_eq_true]
        intro f hf
        by_cases hrequired : f.presence = .required
        · rcases hpassed.required f hf hrequired with hseen | hmem
          · simp [hseen]
          · cases hmem
        · simp [hrequired]
      have hend : nextName? first (Char.ofNat 0x7D :: rest) = .ok none := by cases first <;> rfl
      rw [pending_nil, readByName]
      simp only [hend, bind, Except.bind, hall, if_true]
      rfl
  | @take field fields value members put a b hreads more ih =>
      obtain ⟨steps, rfl⟩ := Nat.exists_eq_succ_of_ne_zero (Nat.ne_of_gt (Nat.zero_lt_of_lt hsteps))
      have hfield : all.find? (·.name == field.name) = some field :=
        find?_name hnames (hpassed.suffix.subset (mem_cons_self ..))
      have hunseen : seen.contains field.name = false := by
        simpa using hpassed.fresh field (mem_cons_self ..)
      have hlength := length_pending first field.name value members rest
      have hvalue := hreads limits _ hdepth (ends_moreMembers members rest) (by omega)
      have hmore := length_lt_write value (moreMembers members rest)
      have hmembers := ih (hpassed.take hnames) (Nat.lt_of_succ_lt_succ hsteps) false
        (by rw [pending, if_neg (by simp)]; omega)
      rw [pending, if_neg (by simp)] at hmembers
      have hcolon : readColon (':' :: value.write (moreMembers members rest)) =
          .ok (value.write (moreMembers members rest)) := rfl
      simp only [readByName, nextName?_pending, bind, Except.bind, readTextBody_write, hfield,
        hunseen, hcolon, hvalue, hmembers]
      rfl
  | @leave field fields members a b hleft more ih =>
      exact ih (hpassed.leave hleft) hsteps first hroom

/-- A record is read back from an object that fills a blank one. -/
theorem Fills.reads (h : Fills levels fields members a b) (hnames : (fields.map Field.name).Nodup) :
    Reads (levels + 1) (readRecord a fields) (.object members) b := by
  intro limits rest hdepth _ hroom
  have hcount := length_writeMembers members (Char.ofNat 0x7D :: rest)
  have hpassed : Passed fields fields [] :=
    ⟨suffix_rfl, fun _ _ => not_mem_nil, fun _ hf _ => .inr hf⟩
  rw [readRecord, skipBlanks_write]
  rw [write] at hroom ⊢
  simp only [length_cons] at hroom hcount
  let inner : Limits := { limits with depth := limits.depth - 1 }
  have hinner : limits.enter = .ok inner := enter_of_lt hdepth
  have hread : readByName inner fields limits.steps [] true a
      (writeMembers members (Char.ofNat 0x7D :: rest)) = .ok (b, rest) :=
    readByName_pending (Nat.lt_sub_of_add_lt hdepth) hnames h hpassed (by omega) true rest
      (Nat.le_of_lt hroom)
  simp only [hinner, bind, Except.bind]
  exact hread

end

/-! ## Maps -/

section

variable {α : Type} {levels : ℕ} {r : Reader α} {f : α → Json} {members done : List (String × α)}

theorem setMember_of_fresh {name : String} (h : name ∉ done.map Prod.fst) (a : α) :
    setMember name a done = done ++ [(name, a)] := by
  have hnone : (done.any fun m => m.1 == name) = false := by
    rw [any_eq_false]
    intro m hm heq
    exact h (mem_map.mpr ⟨m, hm, beq_iff_eq.mp heq⟩)
  rw [setMember, hnone]
  rfl

/-- The members that are left are read behind those that have been read. -/
theorem readMembers_pending {limits : Limits} (hdepth : levels < limits.depth)
    (h : ∀ m ∈ members, Reads levels r (f m.2) m.2)
    (hnames : ((done ++ members).map Prod.fst).Nodup) {steps : ℕ} (hsteps : members.length < steps)
    (first : Bool) (rest : List Char)
    (hroom : (pending first (members.map fun m => (m.1, f m.2)) rest).length ≤ limits.steps) :
    readMembers (r limits) steps first done
        (pending first (members.map fun m => (m.1, f m.2)) rest) =
      .ok (done ++ members, rest) := by
  induction members generalizing done steps first with
  | nil =>
      obtain ⟨steps, rfl⟩ := Nat.exists_eq_succ_of_ne_zero (Nat.ne_of_gt hsteps)
      have hend : nextName? first (Char.ofNat 0x7D :: rest) = .ok none := by cases first <;> rfl
      rw [map_nil, pending_nil, readMembers, append_nil]
      simp only [hend, bind, Except.bind]
      rfl
  | cons m members ih =>
      obtain ⟨name, a⟩ := m
      obtain ⟨steps, rfl⟩ := Nat.exists_eq_succ_of_ne_zero (Nat.ne_of_gt (Nat.zero_lt_of_lt hsteps))
      have hfresh : name ∉ done.map Prod.fst := by
        rw [map_append, nodup_append] at hnames
        exact fun hmem => hnames.2.2 name hmem name (mem_cons_self ..) rfl
      obtain ⟨later, hlater⟩ : ∃ later, (members.map fun m => (m.1, f m.2)) = later := ⟨_, rfl⟩
      rw [map_cons, hlater] at hroom ⊢
      have hlength : _ < (pending first ((name, f a) :: later) rest).length :=
        length_pending first name (f a) later rest
      have hmore := length_lt_write (f a) (moreMembers later rest)
      have hvalue : r limits ((f a).write (moreMembers later rest)) =
          .ok (a, moreMembers later rest) :=
        h _ (mem_cons_self ..) limits _ hdepth (ends_moreMembers later rest)
          (Nat.le_of_lt (Nat.lt_of_lt_of_le hlength hroom))
      have hmembers : readMembers (r limits) steps false (done ++ [(name, a)])
          (moreMembers later rest) = .ok (done ++ (name, a) :: members, rest) := by
        have hlast := Nat.le_of_lt (Nat.lt_trans hmore (Nat.lt_of_lt_of_le hlength hroom))
        have hall : ((done ++ [(name, a)] ++ members).map Prod.fst).Nodup := by
          rwa [append_assoc, singleton_append]
        have hrest := ih (fun m hm => h m (mem_cons_of_mem _ hm)) hall
          (Nat.lt_of_succ_lt_succ hsteps) false (by rwa [hlater, pending, if_neg (by simp)])
        rwa [hlater, pending, if_neg (by simp), append_assoc, singleton_append] at hrest
      have hcolon : readColon (':' :: (f a).write (moreMembers later rest)) =
          .ok ((f a).write (moreMembers later rest)) := rfl
      simp only [readMembers, nextName?_pending, bind, Except.bind, readTextBody_write, hcolon,
        hvalue, setMember_of_fresh hfresh, hmembers]

/-- An object whose members all have names of their own is read back. -/
theorem reads_map (h : ∀ m ∈ members, Reads levels r (f m.2) m.2)
    (hnames : (members.map Prod.fst).Nodup) :
    Reads (levels + 1) (readMap r) (.object (members.map fun m => (m.1, f m.2))) members := by
  intro limits rest hdepth _ hroom
  have hcount := length_writeMembers (members.map fun m => (m.1, f m.2)) (Char.ofNat 0x7D :: rest)
  rw [readMap, skipBlanks_write]
  rw [write] at hroom ⊢
  simp only [length_cons, length_map] at hroom hcount
  let inner : Limits := { limits with depth := limits.depth - 1 }
  have hinner : limits.enter = .ok inner := enter_of_lt hdepth
  have hnone : (([] ++ members).map Prod.fst).Nodup := hnames
  have hread : readMembers (r inner) limits.steps true []
      (writeMembers (members.map fun m => (m.1, f m.2)) (Char.ofNat 0x7D :: rest)) =
        .ok ([] ++ members, rest) :=
    readMembers_pending (Nat.lt_sub_of_add_lt hdepth) h hnone (by omega) true rest
      (Nat.le_of_lt hroom)
  simp only [beq_self_eq_true, if_true, hinner, bind, Except.bind]
  exact hread

end

end TrafficCapture.Json
