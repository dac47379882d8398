import TypeDBDriver.Concept.Chrono
import TypeDBDriver.Concept.Proto

/-!
# The rows given to a query

* `GivenRowsHeader`, `GivenRow`, `GivenRows`: a header with the positions of its names, a row built
  against a header, and rows of the width of their header.
* `GivenRows.intoProto`: the rows as they are sent.
* `Setting`, `GivenRow.build`: the calls that build a row; `assigned`, `placed`: what they set for a
  name and at a position.
* `GivenRowsOp`, `Session`: the operations on rows, with a record of what the user meant.
* `GivenRow.build_getElem?`: a row holds at each position what was set there last.
* **`aligned_iff`**: rows are aligned with their header just when no row was pushed that another
  header has misplaced; `push` takes a row without asking for its header.
-/

namespace TypeDBDriver

variable {C : Chrono}

inductive GivenRowEntry (C : Chrono)
  | empty
  | entity (entity : Entity)
  | relation (relation : Relation)
  | attribute (attr : Attribute C)
  | value (value : Value C)

/-! ## Headers and rows -/

/-- The position of each name, the last one where a name is repeated. -/
def indexOf (variableNames : List String) : HashMap String ℕ :=
  variableNames.zipIdx.foldl (fun index (v, i) => index.insert v i) ∅

theorem indexOf_concat (variableNames : List String) (x : String) :
    indexOf (variableNames ++ [x]) = (indexOf variableNames).insert x variableNames.length := by
  simp [indexOf, List.zipIdx_append]

theorem getElem?_of_indexOf {variableNames : List String} {v : String} {i : ℕ}
    (h : (indexOf variableNames).lookup v = some i) : variableNames[i]? = some v := by
  induction variableNames using List.reverseRecOn with
  | nil => cases h
  | append_singleton variableNames x ih =>
    rw [indexOf_concat] at h
    by_cases hv : v = x
    · rw [hv, AList.lookup_insert] at h
      rw [← Option.some.inj h, hv, List.getElem?_concat_length]
    · rw [AList.lookup_insert_ne hv] at h
      have hi := ih h
      rw [List.getElem?_append_left (List.getElem?_eq_some_iff.mp hi).1, hi]

theorem notMem_drop_of_indexOf {variableNames : List String} {v : String} {i : ℕ}
    (h : (indexOf variableNames).lookup v = some i) : v ∉ variableNames.drop (i + 1) := by
  induction variableNames using List.reverseRecOn with
  | nil => cases h
  | append_singleton variableNames x ih =>
    rw [indexOf_concat] at h
    by_cases hv : v = x
    · rw [hv, AList.lookup_insert] at h
      obtain rfl := Option.some.inj h
      rw [List.drop_of_length_le (by simp)]
      exact List.not_mem_nil
    · rw [AList.lookup_insert_ne hv] at h
      have hlt := (List.getElem?_eq_some_iff.mp (getElem?_of_indexOf h)).1
      rw [List.drop_append_of_le_length hlt]
      intro hmem
      rcases List.mem_append.mp hmem with hmem | hmem
      · exact ih h hmem
      · exact hv (List.mem_singleton.mp hmem)

theorem mem_indexOf {variableNames : List String} {v : String} (h : v ∈ variableNames) :
    v ∈ indexOf variableNames := by
  induction variableNames using List.reverseRecOn with
  | nil => cases h
  | append_singleton variableNames x ih =>
    rw [indexOf_concat, AList.mem_insert]
    rcases List.mem_append.mp h with h | h
    · exact .inr (ih h)
    · exact .inl (List.mem_singleton.mp h)

structure GivenRowsHeader where
  variableNames : List String
  index : HashMap String ℕ
  getElem?_index : ∀ {v i}, index.lookup v = some i → variableNames[i]? = some v
  notMem_drop : ∀ {v i}, index.lookup v = some i → v ∉ variableNames.drop (i + 1)
  mem_index : ∀ {v}, v ∈ variableNames → v ∈ index

namespace GivenRowsHeader

def new (variableNames : List String) : GivenRowsHeader :=
  ⟨variableNames, indexOf variableNames, getElem?_of_indexOf, notMem_drop_of_indexOf, mem_indexOf⟩

def width (header : GivenRowsHeader) : ℕ := header.variableNames.length

end GivenRowsHeader

/-- Helper for building a single row. -/
structure GivenRow (C : Chrono) where
  header : GivenRowsHeader
  row : List (GivenRowEntry C)
  length_row : row.length = header.width

namespace GivenRow

def new (header : GivenRowsHeader) : GivenRow C :=
  ⟨header, List.replicate header.width .empty, List.length_replicate⟩

def setAt (r : GivenRow C) (index : ℕ) (entry : GivenRowEntry C) :
    Except QueryError Unit × GivenRow C :=
  if index < r.row.length then
    (.ok (), { r with row := r.row.set index entry, length_row := by simp [r.length_row] })
  else (.error (.givenRowIndexOutOfBounds index r.header.width), r)

def set (r : GivenRow C) (name : String) (entry : GivenRowEntry C) :
    Except QueryError Unit × GivenRow C :=
  match r.header.index.lookup name with
  | some index => r.setAt index entry
  | none => (.error (.givenRowUnknownVariable name), r)

/-- `try_for_each` over the calls of `set`. -/
def setAll : List (String × GivenRowEntry C) → GivenRow C → Except QueryError Unit × GivenRow C
  | [], r => (.ok (), r)
  | (name, entry) :: values, r =>
    match r.set name entry with
    | (.ok (), r) => setAll values r
    | (.error e, r) => (.error e, r)

end GivenRow

/-- Rows of data to be used as input to a query with a `given` stage. -/
structure GivenRows (C : Chrono) where
  header : GivenRowsHeader
  rows : List (List (GivenRowEntry C))
  length_row : ∀ row ∈ rows, row.length = header.width

namespace GivenRows

def newWithHeaders (header : GivenRowsHeader) : GivenRows C := ⟨header, [], nofun⟩

def pushRow (rows : GivenRows C) (row : List (GivenRowEntry C)) :
    Except QueryError Unit × GivenRows C :=
  if h : row.length = rows.header.width then
    (.ok (), { rows with
      rows := rows.rows ++ [row]
      length_row := by
        intro r hr
        rcases List.mem_append.mp hr with hr | hr
        · exact rows.length_row r hr
        · rw [List.mem_singleton.mp hr, h] })
  else (.error (.givenRowsSizeMismatch row.length rows.header.width), rows)

def push (rows : GivenRows C) (row : GivenRow C) : Except QueryError Unit × GivenRows C :=
  rows.pushRow row.row

def pushMap (rows : GivenRows C) (values : List (String × GivenRowEntry C)) :
    Except QueryError Unit × GivenRows C :=
  match GivenRow.setAll values (.new rows.header) with
  | (.ok (), row) => rows.push row
  | (.error e, _) => (.error e, rows)

end GivenRows

/-! ## Encoding -/

namespace Proto

inductive ThingInner
  | entity (entity : Entity)
  | relation (relation : Relation)
  | attribute (attr : Attribute)

structure Thing where
  thing : Option ThingInner

inductive GivenEntryInner
  | empty
  | value (value : Value)
  | thing (thing : Thing)

structure GivenEntry where
  entry : Option GivenEntryInner

structure GivenRow where
  entries : List GivenEntry

structure GivenRows where
  variableNames : List String
  rows : List GivenRow

end Proto

def Entity.intoProto (entity : Entity) : Proto.Entity := ⟨entity.iid.bytes, none⟩

def Relation.intoProto (relation : Relation) : Proto.Relation := ⟨relation.iid.bytes, none⟩

def Attribute.intoProto (attr : Attribute C) : Proto.Attribute := ⟨attr.iid.bytes, none, none⟩

/-- `none` where a struct cannot be sent. -/
def GivenRowEntry.intoProto : GivenRowEntry C → Option Proto.GivenEntry
  | .empty => some ⟨some .empty⟩
  | .value v => do some ⟨some (.value (← v.intoProto))⟩
  | .entity e => some ⟨some (.thing ⟨some (.entity e.intoProto)⟩)⟩
  | .relation r => some ⟨some (.thing ⟨some (.relation r.intoProto)⟩)⟩
  | .attribute a => some ⟨some (.thing ⟨some (.attribute a.intoProto)⟩)⟩

def rowIntoProto (row : List (GivenRowEntry C)) : Option Proto.GivenRow :=
  (row.mapM GivenRowEntry.intoProto).map fun entries => ⟨entries⟩

def GivenRows.intoProto (rows : GivenRows C) : Option Proto.GivenRows :=
  (rows.rows.mapM rowIntoProto).map fun rows' => ⟨rows.header.variableNames, rows'⟩

/-! ## What the user sets -/

/-- A call of `GivenRow::set` or `GivenRow::set_at`. -/
inductive Setting (C : Chrono)
  | byName (name : String) (entry : GivenRowEntry C)
  | byPosition (index : ℕ) (entry : GivenRowEntry C)

namespace Setting

def entry : Setting C → GivenRowEntry C
  | byName _ entry | byPosition _ entry => entry

/-- The call sets this name, which a header with these names has. -/
def setsName (variableNames : List String) (name : String) : Setting C → Bool
  | byName name' _ => name' = name && variableNames.contains name
  | byPosition index _ => variableNames[index]? = some name

/-- The call sets this position of a row with these names: a name that is repeated stands for its
last position. -/
def setsPosition (variableNames : List String) (j : ℕ) : Setting C → Bool
  | byName name _ => variableNames[j]? = some name && !(variableNames.drop (j + 1)).contains name
  | byPosition index _ => index = j && j < variableNames.length

end Setting

/-- The entry of the last call that passes, if any. -/
def lastEntry (passes : Setting C → Bool) (settings : List (Setting C)) :
    Option (GivenRowEntry C) :=
  (settings.reverse.find? passes).map Setting.entry

/-- What was set last for a name. -/
def assigned (variableNames : List String) (settings : List (Setting C)) (name : String) :
    Option (GivenRowEntry C) :=
  lastEntry (Setting.setsName variableNames name) settings

/-- What was set last at a position. -/
def placed (variableNames : List String) (settings : List (Setting C)) (j : ℕ) :
    Option (GivenRowEntry C) :=
  lastEntry (Setting.setsPosition variableNames j) settings

theorem lastEntry_concat (passes : Setting C → Bool) (settings : List (Setting C))
    (s : Setting C) :
    lastEntry passes (settings ++ [s]) =
      if passes s then some s.entry else lastEntry passes settings := by
  unfold lastEntry
  rw [List.reverse_append, List.reverse_singleton, List.singleton_append, List.find?_cons]
  cases passes s <;> rfl

/-- Where no name is repeated, a name and its position are the same. -/
theorem setsPosition_eq_setsName {variableNames : List String} (h : variableNames.Nodup)
    {name : String} {j : ℕ} (hj : variableNames[j]? = some name) (s : Setting C) :
    s.setsPosition variableNames j = s.setsName variableNames name := by
  obtain ⟨hlt, hget⟩ := List.getElem?_eq_some_iff.mp hj
  cases s with
  | byName name' entry =>
    have hlast : name ∉ variableNames.drop (j + 1) := by
      intro hmem
      obtain ⟨k, hk⟩ := List.mem_iff_getElem?.mp hmem
      rw [List.getElem?_drop] at hk
      have := (List.getElem?_inj hlt h).mp (hj.trans hk.symm)
      omega
    have hmem : name ∈ variableNames := List.mem_of_getElem? hj
    rw [Bool.eq_iff_iff]
    simp only [Setting.setsPosition, Setting.setsName, hj, Bool.and_eq_true, decide_eq_true_eq,
      Option.some.injEq, Bool.not_eq_true', List.contains_eq_mem, decide_eq_false_iff_not]
    constructor
    · rintro ⟨rfl, -⟩
      exact ⟨rfl, hmem⟩
    · rintro ⟨rfl, -⟩
      exact ⟨rfl, hlast⟩
  | byPosition index entry =>
    rw [Bool.eq_iff_iff]
    simp only [Setting.setsPosition, Setting.setsName, Bool.and_eq_true, decide_eq_true_eq]
    constructor
    · rintro ⟨rfl, -⟩
      exact hj
    · intro hindex
      exact ⟨(List.getElem?_inj (List.getElem?_eq_some_iff.mp hindex).1 h).mp
        (hindex.trans hj.symm), hlt⟩

theorem placed_eq_assigned {variableNames : List String} (h : variableNames.Nodup)
    {name : String} {j : ℕ} (hj : variableNames[j]? = some name) (settings : List (Setting C)) :
    placed variableNames settings j = assigned variableNames settings name := by
  have hsets : Setting.setsPosition variableNames j =
      (Setting.setsName variableNames name : Setting C → Bool) :=
    funext (setsPosition_eq_setsName h hj)
  rw [placed, assigned, hsets]

namespace GivenRow

def apply (r : GivenRow C) : Setting C → Except QueryError Unit × GivenRow C
  | .byName name entry => r.set name entry
  | .byPosition index entry => r.setAt index entry

/-- A row after some calls, of which any may fail. -/
def build (header : GivenRowsHeader) (settings : List (Setting C)) : GivenRow C :=
  settings.foldl (fun r s => (r.apply s).2) (new header)

theorem setAt_getElem? (r : GivenRow C) (index : ℕ) (entry : GivenRowEntry C) (j : ℕ) :
    (r.setAt index entry).2.row[j]? =
      if index = j ∧ j < r.row.length then some entry else r.row[j]? := by
  unfold setAt
  split_ifs with hindex hj hj
  · obtain ⟨rfl, hlt⟩ := hj
    exact List.getElem?_set_self hlt
  · refine List.getElem?_set_ne fun heq => hj ⟨heq, heq ▸ hindex⟩
  · obtain ⟨rfl, hlt⟩ := hj
    exact absurd hlt hindex
  · rfl

/-- One call, and what it sets. -/
theorem apply_getElem? (r : GivenRow C) (s : Setting C) (j : ℕ) :
    (r.apply s).2.row[j]? =
      if s.setsPosition r.header.variableNames j then some s.entry else r.row[j]? := by
  cases s with
  | byPosition index entry =>
    show (r.setAt index entry).2.row[j]? = _
    rw [setAt_getElem?, r.length_row]
    simp only [Setting.setsPosition, Bool.and_eq_true, decide_eq_true_eq]
    rfl
  | byName name entry =>
    show (r.set name entry).2.row[j]? = _
    have hsets : (Setting.byName name entry).setsPosition r.header.variableNames j = true ↔
        r.header.index.lookup name = some j := by
      simp only [Setting.setsPosition, Bool.and_eq_true, decide_eq_true_eq, Bool.not_eq_true',
        List.contains_eq_mem, decide_eq_false_iff_not]
      constructor
      · rintro ⟨hj, hlast⟩
        obtain ⟨i, hi⟩ := Option.isSome_iff_exists.mp
          (AList.lookup_isSome.mpr (r.header.mem_index (List.mem_of_getElem? hj)))
        have hname := r.header.getElem?_index hi
        -- `i` is the last position of the name, and so is `j`
        rcases lt_trichotomy i j with hlt | rfl | hgt
        · refine absurd (List.mem_of_getElem? (i := j - (i + 1)) ?_) (r.header.notMem_drop hi)
          rw [List.getElem?_drop, ← hj]
          congr 1
          omega
        · exact hi
        · refine absurd (List.mem_of_getElem? (i := i - (j + 1)) ?_) hlast
          rw [List.getElem?_drop, ← hname]
          congr 1
          omega
      · intro hi
        exact ⟨r.header.getElem?_index hi, r.header.notMem_drop hi⟩
    unfold set
    cases hindex : r.header.index.lookup name with
    | none =>
      rw [hindex] at hsets
      rw [if_neg (by rw [hsets]; exact nofun)]
    | some index =>
      have hlt : index < r.row.length := by
        rw [r.length_row]
        exact (List.getElem?_eq_some_iff.mp (r.header.getElem?_index hindex)).1
      rw [hindex, Option.some.injEq] at hsets
      show (r.setAt index entry).2.row[j]? = _
      rw [setAt_getElem?]
      refine if_congr ?_ rfl rfl
      rw [hsets]
      refine and_iff_left_of_imp ?_
      rintro rfl
      exact hlt

theorem apply_header (r : GivenRow C) (s : Setting C) : (r.apply s).2.header = r.header := by
  have hsetAt : ∀ index entry, (r.setAt index entry).2.header = r.header := fun index entry => by
    unfold setAt
    split_ifs <;> rfl
  cases s with
  | byPosition index entry => exact hsetAt index entry
  | byName name entry =>
    show (r.set name entry).2.header = r.header
    unfold set
    split
    · exact hsetAt _ entry
    · rfl

/-- **A row holds at each position what was set there last.** -/
theorem build_getElem? (header : GivenRowsHeader) (settings : List (Setting C)) :
    (build header settings).header = header ∧ ∀ j, j < header.width →
      (build header settings).row[j]? =
        some ((placed header.variableNames settings j).getD .empty) := by
  induction settings using List.reverseRecOn with
  | nil =>
    refine ⟨rfl, fun j hj => ?_⟩
    show (List.replicate header.width GivenRowEntry.empty)[j]? = some .empty
    rw [List.getElem?_replicate, if_pos hj]
  | append_singleton settings s ih =>
    obtain ⟨hheader, hrow⟩ := ih
    have hbuild : build header (settings ++ [s]) = ((build header settings).apply s).2 := by
      rw [build, List.foldl_append]
      rfl
    rw [hbuild]
    refine ⟨(apply_header _ s).trans hheader, fun j hj => ?_⟩
    rw [apply_getElem?, hheader, placed, lastEntry_concat]
    split_ifs
    · rfl
    · exact hrow j hj

/-- The calls of `setAll` are calls of `set`. -/
theorem setAll_ok {values : List (String × GivenRowEntry C)} {r r' : GivenRow C}
    (h : setAll values r = (.ok (), r')) :
    (values.map fun v => Setting.byName v.1 v.2).foldl (fun r s => (r.apply s).2) r = r' := by
  induction values generalizing r with
  | nil => exact (Prod.mk.inj h).2
  | cons v values ih =>
    unfold setAll at h
    split at h
    · rename_i r₁ hset
      have hfirst : (r.set v.1 v.2).2 = r₁ := congrArg Prod.snd hset
      rw [List.map_cons, List.foldl_cons]
      show List.foldl _ (r.set v.1 v.2).2 _ = r'
      rw [hfirst]
      exact ih h
    · cases h

end GivenRow

/-! ## The rows of a user -/

/-- An operation on rows. A row for `push` may have been built against any header. -/
inductive GivenRowsOp (C : Chrono)
  | push (header : GivenRowsHeader) (settings : List (Setting C))
  | pushRow (row : List (GivenRowEntry C))
  | pushMap (values : List (String × GivenRowEntry C))

namespace GivenRowsOp

/-- What the user means by a row: the entry of each name. -/
def meaning (variableNames : List String) :
    GivenRowsOp C → String → Option (GivenRowEntry C)
  | push header settings => assigned header.variableNames settings
  | pushRow row => fun name => List.lookup name (variableNames.zip row)
  | pushMap values => assigned variableNames (values.map fun v => .byName v.1 v.2)

/-- A row of another header is set as if it were of this one: what was set last at the position of
a name is what was set last for the name. -/
def Fits (header : GivenRowsHeader) : GivenRowsOp C → Prop
  | push own settings => own.width = header.width → ∀ name j,
      header.variableNames[j]? = some name →
        (placed own.variableNames settings j).getD .empty =
          (assigned own.variableNames settings name).getD .empty
  | _ => True

end GivenRowsOp

def GivenRows.apply (rows : GivenRows C) : GivenRowsOp C → Except QueryError Unit × GivenRows C
  | .push header settings => rows.push (.build header settings)
  | .pushRow row => rows.pushRow row
  | .pushMap values => rows.pushMap values

/-- Rows, and what the user meant by each of them. -/
structure Session (C : Chrono) where
  rows : GivenRows C
  meanings : List (String → Option (GivenRowEntry C))

namespace Session

def step (s : Session C) (op : GivenRowsOp C) : Session C :=
  match s.rows.apply op with
  | (.ok (), rows) => ⟨rows, s.meanings ++ [op.meaning s.rows.header.variableNames]⟩
  | (.error _, rows) => ⟨rows, s.meanings⟩

def run (header : GivenRowsHeader) (ops : List (GivenRowsOp C)) : Session C :=
  ops.foldl step ⟨.newWithHeaders header, []⟩

/-- The rows that the user meant, in the columns of the header. -/
def meant (s : Session C) : List (List (GivenRowEntry C)) :=
  s.meanings.map fun f => s.rows.header.variableNames.map fun name => (f name).getD .empty

/-- Column `j` of each row is the encoding of what the user meant for the name at position `j`. -/
structure Columns (s : Session C) (proto : Proto.GivenRows) : Prop where
  variableNames : proto.variableNames = s.rows.header.variableNames
  length_rows : proto.rows.length = s.meanings.length
  entries : ∀ (i : ℕ) (f : String → Option (GivenRowEntry C)) (row : Proto.GivenRow),
    s.meanings[i]? = some f → proto.rows[i]? = some row →
    row.entries.length = s.rows.header.width ∧
      ∀ (j : ℕ) (name : String), s.rows.header.variableNames[j]? = some name →
        row.entries[j]? = ((f name).getD .empty).intoProto

/-- The rows are those that the user meant, and they are sent as such, unless one of the entries
cannot be sent. -/
structure Aligned (s : Session C) : Prop where
  stored : s.rows.rows = s.meant
  sent : ∀ proto, s.rows.intoProto = some proto → s.Columns proto
  refused : s.rows.intoProto = none → ∃ row ∈ s.meant, ∃ entry ∈ row, entry.intoProto = none

end Session

/-! ## Alignment -/

theorem map_of_mapM {β γ : Type} {f : β → Option γ} {l : List β} {l' : List γ}
    (h : l.mapM f = some l') : l'.map some = l.map f := by
  induction l generalizing l' with
  | nil =>
    obtain rfl := Option.some.inj h
    rfl
  | cons b l ih =>
    rw [List.mapM_cons] at h
    obtain ⟨c, hb, h⟩ := Option.bind_eq_some_iff.mp h
    obtain ⟨cs, hl, h⟩ := Option.bind_eq_some_iff.mp h
    obtain rfl := Option.some.inj h
    rw [List.map_cons, List.map_cons, hb, ih hl]

theorem exists_of_mapM_eq_none {β γ : Type} {f : β → Option γ} {l : List β}
    (h : l.mapM f = none) : ∃ b ∈ l, f b = none := by
  induction l with
  | nil => cases h
  | cons b l ih =>
    rw [List.mapM_cons] at h
    cases hb : f b with
    | none => exact ⟨b, List.mem_cons_self, hb⟩
    | some c =>
      cases hl : l.mapM f with
      | none =>
        obtain ⟨b', hb', hnone⟩ := ih hl
        exact ⟨b', List.mem_cons_of_mem b hb', hnone⟩
      | some cs =>
        rw [hb, hl] at h
        cases h

theorem getElem?_of_mapM {β γ : Type} {f : β → Option γ} {l : List β} {l' : List γ}
    (h : l.mapM f = some l') {b : β} {j : ℕ} (hj : l[j]? = some b) : l'[j]? = f b := by
  have hmap := congrArg (fun l => l[j]?) (map_of_mapM h)
  simp only [List.getElem?_map, hj, Option.map_some] at hmap
  cases hc : l'[j]? with
  | none =>
    rw [hc] at hmap
    cases hmap
  | some c =>
    rw [hc, Option.map_some, Option.some.injEq] at hmap
    exact hmap

theorem length_of_mapM {β γ : Type} {f : β → Option γ} {l : List β} {l' : List γ}
    (h : l.mapM f = some l') : l'.length = l.length := by
  have hlength := congrArg List.length (map_of_mapM h)
  rwa [List.length_map, List.length_map] at hlength

theorem lookup_zip {variableNames : List String} {row : List (GivenRowEntry C)}
    (h : variableNames.Nodup) {name : String} {j : ℕ} (hj : variableNames[j]? = some name) :
    List.lookup name (variableNames.zip row) = row[j]? := by
  induction variableNames generalizing row j with
  | nil => cases hj
  | cons v variableNames ih =>
    obtain ⟨hv, h⟩ := List.nodup_cons.mp h
    cases row with
    | nil => rfl
    | cons e row =>
      rw [List.zip_cons_cons, List.lookup_cons]
      cases j with
      | zero =>
        obtain rfl : v = name := Option.some.inj hj
        simp
      | succ j =>
        have hne : (name == v) = false := by
          rw [beq_eq_false_iff_ne]
          rintro rfl
          exact hv (List.mem_of_getElem? hj)
        rw [hne]
        exact ih h hj

/-- A row is the one that is meant if each of its entries is. -/
theorem eq_map_iff {variableNames : List String} {row : List (GivenRowEntry C)}
    (hlen : row.length = variableNames.length) {f : String → GivenRowEntry C} :
    row = variableNames.map f ↔
      ∀ (name : String) (j : ℕ), variableNames[j]? = some name → row[j]? = some (f name) := by
  constructor
  · rintro rfl name j hj
    rw [List.getElem?_map, hj]
    rfl
  · intro h
    refine List.ext_getElem? fun j => ?_
    rw [List.getElem?_map]
    cases hj : variableNames[j]? with
    | none => exact List.getElem?_eq_none (hlen ▸ List.getElem?_eq_none_iff.mp hj)
    | some name => exact h name j hj

variable {header : GivenRowsHeader} {rows : GivenRows C}

theorem pushRow_of_length {row : List (GivenRowEntry C)} (h : row.length = rows.header.width) :
    ∃ rows', rows.pushRow row = (.ok (), rows') ∧ rows'.header = rows.header ∧
      rows'.rows = rows.rows ++ [row] := by
  rw [GivenRows.pushRow, dif_pos h]
  exact ⟨_, rfl, rfl, rfl⟩

theorem pushRow_of_ne {row : List (GivenRowEntry C)} (h : row.length ≠ rows.header.width) :
    rows.pushRow row =
      (.error (.givenRowsSizeMismatch row.length rows.header.width), rows) := by
  rw [GivenRows.pushRow, dif_neg h]

/-- A row built against the header of the rows is one that is meant. -/
theorem build_eq_meaning (hnodup : header.variableNames.Nodup) (settings : List (Setting C)) :
    (GivenRow.build header settings).row = header.variableNames.map fun name =>
      (assigned header.variableNames settings name).getD .empty := by
  obtain ⟨hheader, hrow⟩ := GivenRow.build_getElem? header settings
  have hlen := (GivenRow.build header settings).length_row
  rw [hheader] at hlen
  refine (eq_map_iff hlen).mpr fun name j hj => ?_
  rw [hrow j (List.getElem?_eq_some_iff.mp hj).1, placed_eq_assigned hnodup hj]

/-- **An operation fails and changes nothing, or adds one row**, which is the one that is meant just
if the operation fits. -/
theorem apply_cases (hnodup : rows.header.variableNames.Nodup) (op : GivenRowsOp C) :
    (∃ e, rows.apply op = (.error e, rows) ∧ op.Fits rows.header) ∨
      ∃ row rows', rows.apply op = (.ok (), rows') ∧ rows'.header = rows.header ∧
        rows'.rows = rows.rows ++ [row] ∧
        ((row = rows.header.variableNames.map fun name =>
          (op.meaning rows.header.variableNames name).getD .empty) ↔ op.Fits rows.header) := by
  cases op with
  | push own settings =>
    obtain ⟨hheader, hrow⟩ := GivenRow.build_getElem? own settings
    have hlen := (GivenRow.build own settings).length_row
    rw [hheader] at hlen
    by_cases hwidth : own.width = rows.header.width
    · obtain ⟨rows', happly, hheader', hrows⟩ := pushRow_of_length (hlen.trans hwidth)
      refine .inr ⟨_, rows', happly, hheader', hrows, ?_⟩
      have hplaced : ∀ name j, rows.header.variableNames[j]? = some name →
          (GivenRow.build own settings).row[j]? =
            some ((placed own.variableNames settings j).getD .empty) := fun name j hj =>
        hrow j (hwidth ▸ (List.getElem?_eq_some_iff.mp hj).1)
      rw [eq_map_iff (hlen.trans hwidth)]
      constructor
      · intro h _ name j hj
        exact Option.some.inj ((hplaced name j hj).symm.trans (h name j hj))
      · intro h name j hj
        rw [hplaced name j hj, h hwidth name j hj]
        rfl
    · have hne : (GivenRow.build own settings).row.length ≠ rows.header.width := by
        rw [hlen]
        exact hwidth
      exact .inl ⟨_, pushRow_of_ne hne, fun h => absurd h hwidth⟩
  | pushRow row =>
    by_cases hlen : row.length = rows.header.width
    · obtain ⟨rows', happly, hheader, hrows⟩ := pushRow_of_length hlen
      refine .inr ⟨row, rows', happly, hheader, hrows, iff_of_true ?_ trivial⟩
      refine (eq_map_iff hlen).mpr fun name j hj => ?_
      have hlt : j < row.length := by
        rw [hlen]
        exact (List.getElem?_eq_some_iff.mp hj).1
      show row[j]? = some ((List.lookup name (rows.header.variableNames.zip row)).getD .empty)
      rw [lookup_zip hnodup hj, List.getElem?_eq_getElem hlt]
      rfl
    · exact .inl ⟨_, pushRow_of_ne hlen, trivial⟩
  | pushMap values =>
    show (∃ e, rows.pushMap values = (.error e, rows) ∧ _) ∨
      ∃ row rows', rows.pushMap values = (.ok (), rows') ∧ _
    unfold GivenRows.pushMap
    rcases hset : GivenRow.setAll values (.new rows.header) with ⟨e | ⟨⟩, row⟩
    · exact .inl ⟨e, rfl, trivial⟩
    · have hrow := GivenRow.setAll_ok hset
      have hmeaning := build_eq_meaning hnodup (values.map fun v => .byName v.1 v.2)
      rw [show GivenRow.build rows.header _ = row from hrow] at hmeaning
      have hlen : row.row.length = rows.header.width := by
        rw [hmeaning, List.length_map]
        rfl
      obtain ⟨rows', happly, hheader, hrows⟩ := pushRow_of_length hlen
      exact .inr ⟨row.row, rows', happly, hheader, hrows, iff_of_true hmeaning trivial⟩

namespace Session

theorem run_concat (header : GivenRowsHeader) (ops : List (GivenRowsOp C)) (op : GivenRowsOp C) :
    run header (ops ++ [op]) = (run header ops).step op := by
  rw [run, List.foldl_append]
  rfl

/-- The rows of a run, by induction on its operations. -/
theorem run_spec (hnodup : header.variableNames.Nodup) (ops : List (GivenRowsOp C)) :
    (run header ops).rows.header = header ∧
      (run header ops).rows.rows.length = (run header ops).meant.length ∧
      ((run header ops).rows.rows = (run header ops).meant ↔ ∀ op ∈ ops, op.Fits header) := by
  induction ops using List.reverseRecOn with
  | nil => exact ⟨rfl, rfl, iff_of_true rfl nofun⟩
  | append_singleton ops op ih =>
    obtain ⟨hheader, hlen, hstored⟩ := ih
    have hnodup : (run header ops).rows.header.variableNames.Nodup := by rwa [hheader]
    have hcases := apply_cases hnodup op
    have hfits : (∀ x ∈ ops ++ [op], x.Fits header) ↔
        (∀ x ∈ ops, x.Fits header) ∧ op.Fits header := by
      rw [List.forall_mem_append, List.forall_mem_singleton]
    rw [run_concat, hfits, ← hstored]
    rcases hcases with ⟨e, happly, hop⟩ | ⟨row, rows', happly, hheader', hrows, hop⟩
    · have hstep : (run header ops).step op = run header ops := by rw [step, happly]
      rw [hstep]
      rw [hheader] at hop
      exact ⟨hheader, hlen, (and_iff_left hop).symm⟩
    · have hstep : (run header ops).step op =
          ⟨rows', (run header ops).meanings ++ [op.meaning header.variableNames]⟩ := by
        rw [step, happly, hheader]
      have hmeant : ((run header ops).step op).meant = (run header ops).meant ++
          [header.variableNames.map fun name =>
            (op.meaning header.variableNames name).getD .empty] := by
        rw [hstep, meant, meant, hheader', hheader, List.map_append]
        rfl
      rw [hmeant, hstep, hrows]
      rw [hheader] at hop hheader'
      refine ⟨hheader', ?_, ?_⟩
      · rw [List.length_append, List.length_append, hlen]
        rfl
      · rw [← hop]
        constructor
        · intro h
          obtain ⟨hinit, hlast⟩ := List.append_inj h hlen
          exact ⟨hinit, List.singleton_inj.mp hlast⟩
        · rintro ⟨hinit, hlast⟩
          rw [hinit, ← hlast]

/-- What is sent of rows that are those that the user meant. -/
theorem columns_of_stored {s : Session C} (h : s.rows.rows = s.meant) {proto : Proto.GivenRows}
    (hproto : s.rows.intoProto = some proto) : s.Columns proto := by
  obtain ⟨rows', hrows, rfl⟩ := Option.map_eq_some_iff.mp hproto
  refine ⟨rfl, ?_, fun i f row hf hrow => ?_⟩
  · rw [length_of_mapM hrows, h, meant, List.length_map]
  · have hmeant : s.rows.rows[i]? = some (s.rows.header.variableNames.map fun name =>
        (f name).getD .empty) := by
      rw [h, meant, List.getElem?_map, hf]
      rfl
    obtain ⟨entries, hentries, rfl⟩ :=
      Option.map_eq_some_iff.mp ((getElem?_of_mapM hrows hmeant).symm.trans hrow)
    refine ⟨?_, fun j name hj => ?_⟩
    · rw [length_of_mapM hentries, List.length_map]
      rfl
    · refine getElem?_of_mapM hentries ?_
      rw [List.getElem?_map, hj]
      rfl

theorem refused_of_stored {s : Session C} (h : s.rows.rows = s.meant)
    (hproto : s.rows.intoProto = none) : ∃ row ∈ s.meant, ∃ entry ∈ row, entry.intoProto = none := by
  rw [GivenRows.intoProto, Option.map_eq_none_iff, h] at hproto
  obtain ⟨row, hrow, hnone⟩ := exists_of_mapM_eq_none hproto
  rw [rowIntoProto, Option.map_eq_none_iff] at hnone
  exact ⟨row, hrow, exists_of_mapM_eq_none hnone⟩

/-- **Rows are aligned with their header just when every row pushed fits it.** All rows have its
width, and an operation that fails changes nothing, whatever is pushed. -/
theorem aligned_iff (header : GivenRowsHeader) (hdistinct : header.variableNames.Nodup)
    (ops : List (GivenRowsOp C)) :
    (∀ row ∈ (run header ops).rows.rows, row.length = header.width) ∧
      (∀ op e, ((run header ops).rows.apply op).1 = .error e →
        ((run header ops).rows.apply op).2 = (run header ops).rows) ∧
      ((run header ops).Aligned ↔ ∀ op ∈ ops, op.Fits header) := by
  obtain ⟨hheader, -, hstored⟩ := run_spec hdistinct ops
  refine ⟨fun row hrow => ?_, fun op e he => ?_, ?_⟩
  · rw [(run header ops).rows.length_row row hrow, hheader]
  · have hnodup : (run header ops).rows.header.variableNames.Nodup := by rwa [hheader]
    rcases apply_cases hnodup op with ⟨e', happly, -⟩ | ⟨row, rows', happly, -⟩
    · rw [happly]
    · rw [happly] at he
      cases he
  · rw [← hstored]
    exact ⟨Aligned.stored, fun h => ⟨h, fun proto => columns_of_stored h, refused_of_stored h⟩⟩

/-- Rows of a header with the same names fit. -/
theorem fits_of_variableNames_eq {own : GivenRowsHeader}
    (hdistinct : header.variableNames.Nodup) (heq : own.variableNames = header.variableNames)
    (settings : List (Setting C)) : (GivenRowsOp.push own settings).Fits header := by
  intro _ name j hj
  rw [heq, placed_eq_assigned hdistinct hj]

/-- A row built by name against the header `b`, `a`, and one without a header. -/
def mixedOps : List (GivenRowsOp Gregorian.chrono) :=
  [.push (.new ["b", "a"]) [.byName "a" (.value (.integer 1))], .pushRow [.empty, .empty]]

/-- The first row has been taken for one of the header `a`, `b`. -/
theorem not_aligned :
    ¬ ∀ (header : GivenRowsHeader) (ops : List (GivenRowsOp Gregorian.chrono)),
      header.variableNames.Nodup → (run header ops).Aligned := by
  intro h
  have hstored := (h (.new ["a", "b"]) mixedOps (by decide)).stored
  have hentry := congrArg (fun rows => rows.head?.bind fun row => row.head?) hstored
  cases hentry

theorem aligned_iff_mixed :
    (run (.new ["a", "b"]) mixedOps).Aligned ↔
      ∀ op ∈ mixedOps, op.Fits (.new ["a", "b"]) :=
  (aligned_iff (.new ["a", "b"]) (by decide) mixedOps).2.2

end Session

end TypeDBDriver
