import Mathlib.Data.String.Basic
import TypeDBDriver.Lib.Json
import TypeDBDriver.Lib.Numeral

/-!
# JSON trees

Values with other numbers in them, and values whose objects are maps ordered by name.

* `Value.map`: every number replaced.
* `Value.Each`: what holds of every string and name, and of every number.
* `emplace`, `Value.sorted`: a map that keeps its first entry of a name; objects made such maps.
* `Value.IsSorted`, `Value.sorted_eq_self`: the values that are left as they are.
* **`Value.same_sorted`**: without repeated names, a value equals its sorted form.
* **`distinct_of_parse`**: a value that was read repeats no name.
* `Literal`, `literals`: numbers kept as they are written, and the integers among them.
-/

namespace Json

variable {ν μ κ : Type}

/-! ## Numbers replaced -/

mutual
def Value.map (f : ν → μ) : Value ν → Value μ
  | .object members => .object (mapMembers f members)
  | .array elements => .array (mapElements f elements)
  | .string s => .string s
  | .number n => .number (f n)
  | .boolean b => .boolean b
  | .null => .null

def mapMembers (f : ν → μ) : List (String × Value ν) → List (String × Value μ)
  | [] => []
  | (k, v) :: members => (k, v.map f) :: mapMembers f members

def mapElements (f : ν → μ) : List (Value ν) → List (Value μ)
  | [] => []
  | v :: elements => v.map f :: mapElements f elements
end

mutual
/-- `S` holds of every string and every name, `P` of every number. -/
def Value.Each (S : String → Prop) (P : ν → Prop) : Value ν → Prop
  | .object members => EachMember S P members
  | .array elements => EachElement S P elements
  | .string s => S s
  | .number n => P n
  | .boolean _ | .null => True

def EachMember (S : String → Prop) (P : ν → Prop) : List (String × Value ν) → Prop
  | [] => True
  | (k, v) :: members => S k ∧ v.Each S P ∧ EachMember S P members

def EachElement (S : String → Prop) (P : ν → Prop) : List (Value ν) → Prop
  | [] => True
  | v :: elements => v.Each S P ∧ EachElement S P elements
end

/-- `P` holds of every number. -/
abbrev Value.EachNumber (P : ν → Prop) (v : Value ν) : Prop := v.Each (fun _ => True) P

/-- `S` holds of every string and every name. -/
abbrev Value.EachString (S : String → Prop) (v : Value ν) : Prop := v.Each S fun _ => True

section Map

variable (f : ν → μ) (g : μ → κ)

mutual
theorem Value.map_map : ∀ v : Value ν, (v.map f).map g = v.map (g ∘ f)
  | .object members => by simp only [Value.map, mapMembers_map members]
  | .array elements => by simp only [Value.map, mapElements_map elements]
  | .string _ | .number _ | .boolean _ | .null => by simp only [Value.map, Function.comp]

theorem mapMembers_map : ∀ members : List (String × Value ν),
    mapMembers g (mapMembers f members) = mapMembers (g ∘ f) members
  | [] => rfl
  | (k, v) :: members => by
    rw [mapMembers, mapMembers, mapMembers, Value.map_map v, mapMembers_map members]

theorem mapElements_map : ∀ elements : List (Value ν),
    mapElements g (mapElements f elements) = mapElements (g ∘ f) elements
  | [] => rfl
  | v :: elements => by
    rw [mapElements, mapElements, mapElements, Value.map_map v, mapElements_map elements]
end

theorem mapMembers_keys (members : List (String × Value ν)) :
    (mapMembers f members).map Prod.fst = members.map Prod.fst := by
  induction members with
  | nil => rfl
  | cons m members ih =>
    obtain ⟨k, v⟩ := m
    rw [mapMembers, List.map_cons, ih, List.map_cons]

mutual
/-- Only the numbers change. -/
theorem Value.cost_map : ∀ v : Value ν, (v.map f).cost = v.cost
  | .object members => by rw [Value.map, Value.cost, Value.cost, membersCost_map members]
  | .array elements => by rw [Value.map, Value.cost, Value.cost, elementsCost_map elements]
  | .string _ => rfl
  | .number _ => rfl
  | .boolean true => rfl
  | .boolean false => rfl
  | .null => rfl

theorem membersCost_map : ∀ members : List (String × Value ν),
    membersCost (mapMembers f members) = membersCost members
  | [] => rfl
  | (k, v) :: members => by
    rw [mapMembers, membersCost, membersCost, Value.cost_map v, membersCost_map members]

theorem elementsCost_map : ∀ elements : List (Value ν),
    elementsCost (mapElements f elements) = elementsCost elements
  | [] => rfl
  | v :: elements => by
    rw [mapElements, elementsCost, elementsCost, Value.cost_map v, elementsCost_map elements]
end

mutual
theorem Value.distinct_map : ∀ v : Value ν, (v.map f).Distinct ↔ v.Distinct
  | .object members => by
    rw [Value.map, Value.Distinct, Value.Distinct, mapMembers_keys, distinctMembers_map members]
  | .array elements => by
    rw [Value.map, Value.Distinct, Value.Distinct, distinctElements_map elements]
  | .string _ | .number _ | .boolean _ | .null => Iff.rfl

theorem distinctMembers_map : ∀ members : List (String × Value ν),
    DistinctMembers (mapMembers f members) ↔ DistinctMembers members
  | [] => Iff.rfl
  | (k, v) :: members => by
    rw [mapMembers, DistinctMembers, DistinctMembers, Value.distinct_map v,
      distinctMembers_map members]

theorem distinctElements_map : ∀ elements : List (Value ν),
    DistinctElements (mapElements f elements) ↔ DistinctElements elements
  | [] => Iff.rfl
  | v :: elements => by
    rw [mapElements, DistinctElements, DistinctElements, Value.distinct_map v,
      distinctElements_map elements]
end

variable (S : String → Prop) (P : μ → Prop)

mutual
theorem Value.each_map : ∀ v : Value ν, (v.map f).Each S P ↔ v.Each S (P ∘ f)
  | .object members => by rw [Value.map, Value.Each, Value.Each, eachMember_map members]
  | .array elements => by rw [Value.map, Value.Each, Value.Each, eachElement_map elements]
  | .string _ | .number _ | .boolean _ | .null => Iff.rfl

theorem eachMember_map : ∀ members : List (String × Value ν),
    EachMember S P (mapMembers f members) ↔ EachMember S (P ∘ f) members
  | [] => Iff.rfl
  | (k, v) :: members => by
    rw [mapMembers, EachMember, EachMember, Value.each_map v, eachMember_map members]

theorem eachElement_map : ∀ elements : List (Value ν),
    EachElement S P (mapElements f elements) ↔ EachElement S (P ∘ f) elements
  | [] => Iff.rfl
  | v :: elements => by
    rw [mapElements, EachElement, EachElement, Value.each_map v, eachElement_map elements]
end

end Map

section Each

variable {S T : String → Prop} {P Q : ν → Prop}

mutual
/-- Two facts about the parts of a value give a third. -/
theorem Value.Each.imp {R : String → Prop} {U : ν → Prop} (hs : ∀ s, S s → T s → R s)
    (hp : ∀ n, P n → Q n → U n) : ∀ {v : Value ν}, v.Each S P → v.Each T Q → v.Each R U
  | .object _, h, h' => by
    rw [Value.Each] at *
    exact eachMember_imp hs hp h h'
  | .array _, h, h' => by
    rw [Value.Each] at *
    exact eachElement_imp hs hp h h'
  | .string s, h, h' => hs s h h'
  | .number n, h, h' => hp n h h'
  | .boolean _, _, _ | .null, _, _ => trivial

theorem eachMember_imp {R : String → Prop} {U : ν → Prop} (hs : ∀ s, S s → T s → R s)
    (hp : ∀ n, P n → Q n → U n) : ∀ {members : List (String × Value ν)},
      EachMember S P members → EachMember T Q members → EachMember R U members
  | [], _, _ => trivial
  | (k, _) :: _, h, h' =>
    ⟨hs k h.1 h'.1, Value.Each.imp hs hp h.2.1 h'.2.1, eachMember_imp hs hp h.2.2 h'.2.2⟩

theorem eachElement_imp {R : String → Prop} {U : ν → Prop} (hs : ∀ s, S s → T s → R s)
    (hp : ∀ n, P n → Q n → U n) : ∀ {elements : List (Value ν)},
      EachElement S P elements → EachElement T Q elements → EachElement R U elements
  | [], _, _ => trivial
  | _ :: _, h, h' => ⟨Value.Each.imp hs hp h.1 h'.1, eachElement_imp hs hp h.2 h'.2⟩
end

theorem Value.Each.mono (hs : ∀ s, S s → T s) (hp : ∀ n, P n → Q n) {v : Value ν}
    (h : v.Each S P) : v.Each T Q :=
  h.imp (fun s hs' _ => hs s hs') (fun n hn _ => hp n hn) h

mutual
theorem Value.each_of_forall (hs : ∀ s, S s) (hp : ∀ n, P n) : ∀ v : Value ν, v.Each S P
  | .object members => by
    rw [Value.Each]
    exact eachMember_of_forall hs hp members
  | .array elements => by
    rw [Value.Each]
    exact eachElement_of_forall hs hp elements
  | .string s => hs s
  | .number n => hp n
  | .boolean _ | .null => trivial

theorem eachMember_of_forall (hs : ∀ s, S s) (hp : ∀ n, P n) :
    ∀ members : List (String × Value ν), EachMember S P members
  | [] => trivial
  | (k, v) :: members => ⟨hs k, Value.each_of_forall hs hp v, eachMember_of_forall hs hp members⟩

theorem eachElement_of_forall (hs : ∀ s, S s) (hp : ∀ n, P n) :
    ∀ elements : List (Value ν), EachElement S P elements
  | [] => trivial
  | v :: elements => ⟨Value.each_of_forall hs hp v, eachElement_of_forall hs hp elements⟩
end

theorem eachMember_append (ms ns : List (String × Value ν)) :
    EachMember S P (ms ++ ns) ↔ EachMember S P ms ∧ EachMember S P ns := by
  induction ms with
  | nil => simp [EachMember]
  | cons m ms ih =>
    obtain ⟨k, v⟩ := m
    rw [List.cons_append, EachMember, EachMember, ih, and_assoc, and_assoc]

mutual
/-- Equal values have the same parts. -/
theorem Value.Same.each : ∀ {v w : Value ν}, v.Same w → (v.Each S P ↔ w.Each S P)
  | _, _, .object h => by
    rw [Value.Each, Value.Each]
    exact h.each
  | _, _, .array h => by
    rw [Value.Each, Value.Each]
    exact h.each
  | _, _, .string _ | _, _, .number _ | _, _, .boolean _ | _, _, .null => Iff.rfl

theorem SameMembers.each : ∀ {ms ns : List (String × Value ν)}, SameMembers ms ns →
    (EachMember S P ms ↔ EachMember S P ns)
  | _, _, .nil => Iff.rfl
  | _, _, .cons hv hms => by
    have h := hms.each
    rw [eachMember_append] at h
    rw [EachMember, eachMember_append, EachMember, hv.each, h]
    tauto

theorem SameElements.each : ∀ {vs ws : List (Value ν)}, SameElements vs ws →
    (EachElement S P vs ↔ EachElement S P ws)
  | _, _, .nil => Iff.rfl
  | _, _, .cons hv hvs => by
    rw [EachElement, EachElement, hv.each, hvs.each]
end

mutual
/-- A replacement is known by what it does to the numbers of the value. -/
theorem Value.map_congr {f g : ν → μ} : ∀ {v : Value ν}, v.EachNumber (fun n => f n = g n) →
    v.map f = v.map g
  | .object members, h => by
    rw [Value.EachNumber, Value.Each] at h
    rw [Value.map, Value.map, mapMembers_congr h]
  | .array elements, h => by
    rw [Value.EachNumber, Value.Each] at h
    rw [Value.map, Value.map, mapElements_congr h]
  | .number n, h => congrArg Value.number h
  | .string _, _ | .boolean _, _ | .null, _ => rfl

theorem mapMembers_congr {f g : ν → μ} : ∀ {members : List (String × Value ν)},
    EachMember (fun _ => True) (fun n => f n = g n) members →
      mapMembers f members = mapMembers g members
  | [], _ => rfl
  | (k, v) :: members, h => by
    rw [mapMembers, mapMembers, Value.map_congr h.2.1, mapMembers_congr h.2.2]

theorem mapElements_congr {f g : ν → μ} : ∀ {elements : List (Value ν)},
    EachElement (fun _ => True) (fun n => f n = g n) elements →
      mapElements f elements = mapElements g elements
  | [], _ => rfl
  | v :: elements, h => by
    rw [mapElements, mapElements, Value.map_congr h.1, mapElements_congr h.2]
end

mutual
theorem Value.map_id : ∀ v : Value ν, v.map id = v
  | .object members => by rw [Value.map, mapMembers_id members]
  | .array elements => by rw [Value.map, mapElements_id elements]
  | .string _ | .number _ | .boolean _ | .null => rfl

theorem mapMembers_id : ∀ members : List (String × Value ν), mapMembers id members = members
  | [] => rfl
  | (k, v) :: members => by rw [mapMembers, Value.map_id v, mapMembers_id members]

theorem mapElements_id : ∀ elements : List (Value ν), mapElements id elements = elements
  | [] => rfl
  | v :: elements => by rw [mapElements, Value.map_id v, mapElements_id elements]
end

end Each

/-! ## Ordered maps -/

/-- An entry put into a map ordered by key, unless there is one of its key. -/
def emplace {β : Type} (k : String) (b : β) : List (String × β) → List (String × β)
  | [] => [(k, b)]
  | (l, c) :: entries =>
    if k < l then (k, b) :: (l, c) :: entries
    else if l < k then (l, c) :: emplace k b entries
    else (l, c) :: entries

section Emplace

variable {β : Type} {k : String} {b : β} {entries : List (String × β)}

/-- A greatest key comes last. -/
theorem emplace_last (h : ∀ p ∈ entries, p.1 < k) : emplace k b entries = entries ++ [(k, b)] := by
  induction entries with
  | nil => rfl
  | cons p entries ih =>
    obtain ⟨l, c⟩ := p
    have hl : l < k := h (l, c) List.mem_cons_self
    rw [emplace, if_neg (lt_asymm hl), if_pos hl, ih fun p hp => h p (List.mem_cons_of_mem _ hp),
      List.cons_append]

theorem mem_keys_emplace {l : String} :
    l ∈ (emplace k b entries).map Prod.fst ↔ l = k ∨ l ∈ entries.map Prod.fst := by
  induction entries with
  | nil => simp [emplace]
  | cons p entries ih =>
    obtain ⟨m, c⟩ := p
    rw [emplace]
    split_ifs with h1 h2
    · simp
    · rw [List.map_cons, List.mem_cons, ih, List.map_cons, List.mem_cons]
      tauto
    · have hk : k = m := le_antisymm (not_lt.mp h2) (not_lt.mp h1)
      rw [hk, List.map_cons, List.mem_cons]
      tauto

theorem pairwise_emplace (h : (entries.map Prod.fst).Pairwise (· < ·)) :
    ((emplace k b entries).map Prod.fst).Pairwise (· < ·) := by
  induction entries with
  | nil => simp [emplace]
  | cons p entries ih =>
    obtain ⟨l, c⟩ := p
    rw [List.map_cons, List.pairwise_cons] at h
    obtain ⟨hl, hentries⟩ := h
    rw [emplace]
    split_ifs with h1 h2
    · rw [List.map_cons, List.map_cons, List.pairwise_cons, List.pairwise_cons]
      refine ⟨fun m hm => ?_, hl, hentries⟩
      rcases List.mem_cons.mp hm with rfl | hm
      · exact h1
      · exact lt_trans h1 (hl m hm)
    · rw [List.map_cons, List.pairwise_cons]
      refine ⟨fun m hm => ?_, ih hentries⟩
      rcases mem_keys_emplace.mp hm with rfl | hm
      · exact h2
      · exact hl m hm
    · rw [List.map_cons, List.pairwise_cons]
      exact ⟨hl, hentries⟩

/-- A new key gets a place of its own. -/
theorem emplace_new (h : k ∉ entries.map Prod.fst) :
    ∃ before after, entries = before ++ after ∧
      emplace k b entries = before ++ (k, b) :: after := by
  induction entries with
  | nil => exact ⟨[], [], rfl, rfl⟩
  | cons p entries ih =>
    obtain ⟨l, c⟩ := p
    rw [List.map_cons, List.mem_cons, not_or] at h
    obtain ⟨hne, hnot⟩ := h
    rw [emplace]
    by_cases h1 : k < l
    · rw [if_pos h1]
      exact ⟨[], _, rfl, rfl⟩
    · have h2 : l < k := lt_of_le_of_ne (not_lt.mp h1) (Ne.symm hne)
      obtain ⟨before, after, hentries, hemplace⟩ := ih hnot
      rw [if_neg h1, if_pos h2, hemplace]
      exact ⟨(l, c) :: before, after, by rw [hentries, List.cons_append], rfl⟩

end Emplace

mutual
/-- The objects made into maps ordered by name. -/
def Value.sorted : Value ν → Value ν
  | .object members => .object (sortMembers members [])
  | .array elements => .array (sortElements elements)
  | .string s => .string s
  | .number n => .number n
  | .boolean b => .boolean b
  | .null => .null

/-- The members put into a map one after the other. -/
def sortMembers : List (String × Value ν) → List (String × Value ν) → List (String × Value ν)
  | [], entries => entries
  | (k, v) :: members, entries => sortMembers members (emplace k v.sorted entries)

def sortElements : List (Value ν) → List (Value ν)
  | [] => []
  | v :: elements => v.sorted :: sortElements elements
end

mutual
/-- Every object is ordered by name. -/
def Value.IsSorted : Value ν → Prop
  | .object members => (members.map Prod.fst).Pairwise (· < ·) ∧ SortedMembers members
  | .array elements => SortedElements elements
  | .string _ | .number _ | .boolean _ | .null => True

def SortedMembers : List (String × Value ν) → Prop
  | [] => True
  | (_, v) :: members => v.IsSorted ∧ SortedMembers members

def SortedElements : List (Value ν) → Prop
  | [] => True
  | v :: elements => v.IsSorted ∧ SortedElements elements
end

theorem sortedMembers_emplace {k : String} {v : Value ν} {entries : List (String × Value ν)}
    (hv : v.IsSorted) (h : SortedMembers entries) : SortedMembers (emplace k v entries) := by
  induction entries with
  | nil => exact ⟨hv, trivial⟩
  | cons p entries ih =>
    obtain ⟨l, w⟩ := p
    rw [emplace]
    split_ifs
    · exact ⟨hv, h⟩
    · exact ⟨h.1, ih h.2⟩
    · exact h

mutual
theorem Value.isSorted_sorted : ∀ v : Value ν, v.sorted.IsSorted
  | .object members => by
    rw [Value.sorted, Value.IsSorted]
    exact sortMembers_sorted members [] List.Pairwise.nil trivial
  | .array elements => by
    rw [Value.sorted, Value.IsSorted]
    exact sortElements_sorted elements
  | .string _ | .number _ | .boolean _ | .null => trivial

theorem sortMembers_sorted : ∀ members entries : List (String × Value ν),
    (entries.map Prod.fst).Pairwise (· < ·) → SortedMembers entries →
      ((sortMembers members entries).map Prod.fst).Pairwise (· < ·) ∧
        SortedMembers (sortMembers members entries)
  | [], _, hp, hs => ⟨hp, hs⟩
  | (_, v) :: members, _, hp, hs => by
    rw [sortMembers]
    exact sortMembers_sorted members _ (pairwise_emplace hp)
      (sortedMembers_emplace (Value.isSorted_sorted v) hs)

theorem sortElements_sorted : ∀ elements : List (Value ν), SortedElements (sortElements elements)
  | [] => trivial
  | v :: elements => ⟨Value.isSorted_sorted v, sortElements_sorted elements⟩
end

mutual
/-- **A sorted value is left as it is.** -/
theorem Value.sorted_eq_self : ∀ {v : Value ν}, v.IsSorted → v.sorted = v
  | .object members, h => by
    rw [Value.IsSorted] at h
    rw [Value.sorted, sortMembers_eq_append h.2 [] h.1, List.nil_append]
  | .array elements, h => by
    rw [Value.IsSorted] at h
    rw [Value.sorted, sortElements_eq_self h]
  | .string _, _ | .number _, _ | .boolean _, _ | .null, _ => rfl

theorem sortMembers_eq_append : ∀ {members : List (String × Value ν)}, SortedMembers members →
    ∀ entries : List (String × Value ν),
      ((entries ++ members).map Prod.fst).Pairwise (· < ·) →
        sortMembers members entries = entries ++ members
  | [], _, entries, _ => by rw [sortMembers, List.append_nil]
  | (k, v) :: members, h, entries, hp => by
    have hk : ∀ p ∈ entries, p.1 < k := by
      intro p hp'
      rw [List.map_append, List.pairwise_append] at hp
      exact hp.2.2 p.1 (List.mem_map_of_mem hp') k List.mem_cons_self
    have happend : entries ++ [(k, v)] ++ members = entries ++ (k, v) :: members := by simp
    rw [sortMembers, Value.sorted_eq_self h.1, emplace_last hk,
      sortMembers_eq_append h.2 _ (by rwa [happend]), happend]

theorem sortElements_eq_self : ∀ {elements : List (Value ν)}, SortedElements elements →
    sortElements elements = elements
  | [], _ => rfl
  | v :: elements, h => by
    rw [sortElements, Value.sorted_eq_self h.1, sortElements_eq_self h.2]
end

mutual
theorem Value.IsSorted.distinct : ∀ {v : Value ν}, v.IsSorted → v.Distinct
  | .object members, h => by
    rw [Value.IsSorted] at h
    rw [Value.Distinct]
    exact ⟨h.1.imp fun hlt => ne_of_lt hlt, SortedMembers.distinct h.2⟩
  | .array elements, h => by
    rw [Value.IsSorted] at h
    rw [Value.Distinct]
    exact SortedElements.distinct h
  | .string _, _ | .number _, _ | .boolean _, _ | .null, _ => trivial

theorem SortedMembers.distinct : ∀ {members : List (String × Value ν)}, SortedMembers members →
    DistinctMembers members
  | [], _ => trivial
  | (_, _) :: _, h => ⟨Value.IsSorted.distinct h.1, SortedMembers.distinct h.2⟩

theorem SortedElements.distinct : ∀ {elements : List (Value ν)}, SortedElements elements →
    DistinctElements elements
  | [], _ => trivial
  | _ :: _, h => ⟨Value.IsSorted.distinct h.1, SortedElements.distinct h.2⟩
end

mutual
theorem Value.IsSorted.map (f : ν → μ) : ∀ {v : Value ν}, v.IsSorted → (v.map f).IsSorted
  | .object members, h => by
    rw [Value.IsSorted] at h
    rw [Value.map, Value.IsSorted, mapMembers_keys]
    exact ⟨h.1, SortedMembers.map f h.2⟩
  | .array elements, h => by
    rw [Value.IsSorted] at h
    rw [Value.map, Value.IsSorted]
    exact SortedElements.map f h
  | .string _, _ | .number _, _ | .boolean _, _ | .null, _ => trivial

theorem SortedMembers.map (f : ν → μ) : ∀ {members : List (String × Value ν)},
    SortedMembers members → SortedMembers (mapMembers f members)
  | [], _ => trivial
  | (_, _) :: _, h => ⟨Value.IsSorted.map f h.1, SortedMembers.map f h.2⟩

theorem SortedElements.map (f : ν → μ) : ∀ {elements : List (Value ν)},
    SortedElements elements → SortedElements (mapElements f elements)
  | [], _ => trivial
  | _ :: _, h => ⟨Value.IsSorted.map f h.1, SortedElements.map f h.2⟩
end

/-- A member may come in anywhere on one side, and last on the other. -/
theorem SameMembers.snoc {k : String} {v w : Value ν} (hv : v.Same w) :
    ∀ {ms before after : List (String × Value ν)}, SameMembers ms (before ++ after) →
      SameMembers (ms ++ [(k, v)]) (before ++ (k, w) :: after)
  | [], before, after, h => by
    obtain ⟨rfl, rfl⟩ : before = [] ∧ after = [] := by
      rw [← List.append_eq_nil_iff]
      generalize before ++ after = ns at h
      cases h
      rfl
    exact @SameMembers.cons _ k v w [] [] [] hv .nil
  | (l, x) :: ms, before, after, h => by
    generalize hns : before ++ after = ns at h
    cases h with
    | @cons _ _ y _ b a hx hms =>
      rcases List.append_eq_append_iff.mp hns with ⟨c, rfl, hafter⟩ | ⟨c, rfl, hc⟩
      · -- the new member stands before the counterpart of the first
        rw [List.append_assoc] at hms
        have h := SameMembers.snoc (k := k) hv hms
        rw [hafter, List.cons_append]
        have := @SameMembers.cons _ l x y (ms ++ [(k, v)]) (before ++ (k, w) :: c) a hx
          (by simpa using h)
        simpa using this
      · cases c with
        | nil =>
          obtain rfl : after = (l, y) :: a := hc.symm
          have h := SameMembers.snoc (k := k) hv hms
          have := @SameMembers.cons _ l x y (ms ++ [(k, v)]) (b ++ [(k, w)]) a hx
            (by simpa using h)
          simpa using this
        | cons p c =>
          obtain ⟨rfl, rfl⟩ := List.cons.inj hc
          have happend : SameMembers ms ((b ++ c) ++ after) := by
            rw [List.append_assoc]
            exact hms
          have h := SameMembers.snoc (k := k) hv happend
          have := @SameMembers.cons _ l x y (ms ++ [(k, v)]) b (c ++ (k, w) :: after) hx
            (by simpa using h)
          simpa using this

mutual
/-- **Without repeated names, a value equals its sorted form.** -/
theorem Value.same_sorted : ∀ {v : Value ν}, v.Distinct → v.Same v.sorted
  | .object members, h => by
    rw [Value.Distinct] at h
    rw [Value.sorted]
    exact .object (sortMembers_same h.2 h.1 (fun _ _ => List.not_mem_nil) .nil)
  | .array elements, h => by
    rw [Value.Distinct] at h
    rw [Value.sorted]
    exact .array (sortElements_same h)
  | .string s, _ => .string s
  | .number n, _ => .number n
  | .boolean b, _ => .boolean b
  | .null, _ => .null

theorem sortMembers_same : ∀ {members ms entries : List (String × Value ν)},
    DistinctMembers members → (members.map Prod.fst).Nodup →
      (∀ k ∈ members.map Prod.fst, k ∉ entries.map Prod.fst) → SameMembers ms entries →
        SameMembers (ms ++ members) (sortMembers members entries)
  | [], ms, entries, _, _, _, h => by
    rw [List.append_nil, sortMembers]
    exact h
  | (k, v) :: members, ms, entries, hd, hn, hnew, h => by
    rw [List.map_cons, List.nodup_cons] at hn
    obtain ⟨before, after, hentries, hemplace⟩ :=
      emplace_new (b := v.sorted) (hnew k List.mem_cons_self)
    rw [hentries] at h
    have hsnoc := SameMembers.snoc (k := k) (Value.same_sorted hd.1) h
    rw [← hemplace] at hsnoc
    have hrest : ∀ l ∈ members.map Prod.fst,
        l ∉ (emplace k v.sorted entries).map Prod.fst := by
      intro l hl hmem
      rcases mem_keys_emplace.mp hmem with rfl | hmem
      · exact hn.1 hl
      · exact hnew l (List.mem_cons_of_mem _ hl) hmem
    have := sortMembers_same hd.2 hn.2 hrest hsnoc
    rw [sortMembers]
    simpa using this

theorem sortElements_same : ∀ {elements : List (Value ν)}, DistinctElements elements →
    SameElements elements (sortElements elements)
  | [], _ => .nil
  | _ :: _, h => .cons (Value.same_sorted h.1) (sortElements_same h.2)
end

/-! ## What is read repeats no name -/

theorem distinct_addMember {k : String} {v : Value ν} {ms : List (String × Value ν)}
    (hv : v.Distinct) (h : (ms.map Prod.fst).Nodup ∧ DistinctMembers ms) :
    ((addMember k v ms).map Prod.fst).Nodup ∧ DistinctMembers (addMember k v ms) := by
  rw [addMember]
  split_ifs with hk
  · exact h
  · exact ⟨List.nodup_cons.mpr ⟨hk, h.1⟩, hv, h.2⟩

theorem distinct_of_reader (N : Numbers ν) (fuel : ℕ) :
    (∀ {cs rest : List Char} {v : Value ν}, value N fuel cs = some (v, rest) → v.Distinct) ∧
    (∀ {cs rest : List Char} {ms : List (String × Value ν)}, members N fuel cs = some (ms, rest) →
      (ms.map Prod.fst).Nodup ∧ DistinctMembers ms) ∧
    (∀ {cs rest : List Char} {vs : List (Value ν)}, elements N fuel cs = some (vs, rest) →
      DistinctElements vs) := by
  induction fuel with
  | zero => exact ⟨fun h => (by cases h), fun h => (by cases h), fun h => (by cases h)⟩
  | succ fuel ih =>
    obtain ⟨ihv, ihm, ihe⟩ := ih
    refine ⟨?_, ?_, ?_⟩
    · intro cs rest v h
      rw [value.eq_def] at h
      simp only at h
      split at h
      · split at h
        · obtain ⟨rfl, -⟩ := Prod.mk.inj (Option.some.inj h)
          exact ⟨List.nodup_nil, trivial⟩
        · obtain ⟨⟨ms, rest'⟩, hms, heq⟩ := Option.map_eq_some_iff.mp h
          obtain ⟨rfl, -⟩ := Prod.mk.inj heq
          exact ihm hms
      · split at h
        · obtain ⟨rfl, -⟩ := Prod.mk.inj (Option.some.inj h)
          trivial
        · obtain ⟨⟨vs, rest'⟩, hvs, heq⟩ := Option.map_eq_some_iff.mp h
          obtain ⟨rfl, -⟩ := Prod.mk.inj heq
          exact ihe hvs
      · obtain ⟨⟨s, rest'⟩, -, heq⟩ := Option.map_eq_some_iff.mp h
        obtain ⟨rfl, -⟩ := Prod.mk.inj heq
        trivial
      · obtain ⟨rfl, -⟩ := Prod.mk.inj (Option.some.inj h)
        trivial
      · obtain ⟨rfl, -⟩ := Prod.mk.inj (Option.some.inj h)
        trivial
      · obtain ⟨rfl, -⟩ := Prod.mk.inj (Option.some.inj h)
        trivial
      · rw [number] at h
        split at h
        · obtain ⟨rfl, -⟩ := Prod.mk.inj (Option.some.inj h)
          trivial
        · cases h
    · intro cs rest ms h
      rw [members.eq_def] at h
      simp only at h
      split at h
      · obtain ⟨⟨k, cs₁⟩, -, h⟩ := Option.bind_eq_some_iff.mp h
        simp only at h
        split at h
        · obtain ⟨⟨v, cs₃⟩, hv, h⟩ := Option.bind_eq_some_iff.mp h
          simp only at h
          split at h
          · obtain ⟨⟨ms', cs₅⟩, hms, h⟩ := Option.bind_eq_some_iff.mp h
            obtain ⟨rfl, -⟩ := Prod.mk.inj (Option.some.inj h)
            exact distinct_addMember (ihv hv) (ihm hms)
          · obtain ⟨rfl, -⟩ := Prod.mk.inj (Option.some.inj h)
            exact ⟨by simp, ihv hv, trivial⟩
          · cases h
        · cases h
      · cases h
    · intro cs rest vs h
      rw [elements] at h
      obtain ⟨⟨v, cs₁⟩, hv, h⟩ := Option.bind_eq_some_iff.mp h
      simp only at h
      split at h
      · obtain ⟨⟨vs', cs₃⟩, hvs, h⟩ := Option.bind_eq_some_iff.mp h
        obtain ⟨rfl, -⟩ := Prod.mk.inj (Option.some.inj h)
        exact ⟨ihv hv, ihe hvs⟩
      · obtain ⟨rfl, -⟩ := Prod.mk.inj (Option.some.inj h)
        exact ⟨ihv hv, trivial⟩
      · cases h

/-- **A value that was read repeats no name.** -/
theorem distinct_of_parse {N : Numbers ν} {text : List Char} {v : Value ν}
    (h : parse N text = some v) : v.Distinct := by
  rw [parse] at h
  split at h
  · cases h
  · rename_i w rest hv
    split at h
    · obtain rfl := Option.some.inj h
      exact (distinct_of_reader N _).1 hv
    · cases h

/-! ## Numbers as they are written -/

/-- A number as it is written. -/
def Literal : Type := {cs : List Char // isNumber cs = true}

/-- Numbers that are kept as they are written. -/
def literals : Numbers Literal where
  print l := l.val
  read cs := if h : isNumber cs = true then ⟨cs, h⟩ else ⟨['0'], rfl⟩
  print_isNumber l := l.property
  read_print l := dif_pos l.property

/-- A fraction or an exponent is written. -/
def isFraction (cs : List Char) : Bool := cs.any fun c => c == '.' || c == 'e' || c == 'E'

/-- The integer that a minus sign, if there is one, and digits denote. -/
def signedDigits : List Char → ℤ
  | '-' :: ds => -(Nat.ofDigitChars 10 ds 0 : ℤ)
  | ds => Nat.ofDigitChars 10 ds 0

/-- The number as an integer, when it is written without fraction and exponent. -/
def Literal.integer (l : Literal) : Option ℤ :=
  if isFraction l.val then none else some (signedDigits l.val)

/-- No leading zero is printed. -/
theorem exists_toDigits {n : ℕ} (h : 0 < n) :
    ∃ d ds, Nat.toDigits 10 n = d :: ds ∧ isDigit19 d = true := by
  induction n using Nat.strong_induction_on with
  | _ n ih =>
    by_cases hn : n < 10
    · rw [Nat.toDigits_of_lt_base hn]
      refine ⟨Nat.digitChar n, [], rfl, ?_⟩
      interval_cases n <;> rfl
    · obtain ⟨d, ds, hd, hdigit⟩ := ih (n / 10) (by omega) (by omega)
      rw [Nat.toDigits_of_base_le (by omega) (not_lt.mp hn), hd]
      exact ⟨d, ds ++ [Nat.digitChar (n % 10)], rfl, hdigit⟩

theorem isUnsigned_toDigits (n : ℕ) : isUnsigned (Nat.toDigits 10 n) = true := by
  rcases Nat.eq_zero_or_pos n with rfl | hn
  · rfl
  · obtain ⟨d, ds, hd, hdigit⟩ := exists_toDigits hn
    have hall : ∀ c ∈ ds, c.isDigit = true := by
      intro c hc
      exact Numeral.allDigits_toDigits n c (by rw [hd]; exact List.mem_cons_of_mem d hc)
    have hdrop : ds.dropWhile Char.isDigit = [] := List.dropWhile_eq_nil_iff.mpr hall
    have hzero : d ≠ '0' := by
      rintro rfl
      cases hdigit
    rw [hd, isUnsigned]
    · rw [hdigit, spanDigits, hdrop]
      rfl
    · exact hzero

theorem head_toDigits (n : ℕ) : ∃ d ds, Nat.toDigits 10 n = d :: ds ∧ d ≠ '-' := by
  obtain ⟨d, ds, hd⟩ := List.exists_cons_of_ne_nil (Nat.toDigits_ne_nil (n := n) (b := 10))
  refine ⟨d, ds, hd, ?_⟩
  have hdigit := Numeral.allDigits_toDigits n d (by rw [hd]; exact List.mem_cons_self)
  exact Numeral.ne_of_isDigit hdigit rfl

theorem isNumber_displaySigned (i : ℤ) : isNumber (Numeral.displaySigned i) = true := by
  rw [Numeral.displaySigned]
  split_ifs
  · exact isUnsigned_toDigits i.natAbs
  · obtain ⟨d, ds, hd, hne⟩ := head_toDigits i.natAbs
    have h := isUnsigned_toDigits i.natAbs
    rw [hd] at h ⊢
    rw [isNumber]
    · exact h
    · exact fun _ heq => hne (List.cons.inj heq).1

/-- An integer as it is printed. -/
def Literal.ofInt (i : ℤ) : Literal := ⟨Numeral.displaySigned i, isNumber_displaySigned i⟩

theorem isFraction_displaySigned (i : ℤ) : isFraction (Numeral.displaySigned i) = false := by
  have hdigits : isFraction (Nat.toDigits 10 i.natAbs) = false := by
    rw [isFraction, List.any_eq_false]
    intro c hc
    have hdigit := Numeral.allDigits_toDigits i.natAbs c hc
    have h1 : c ≠ '.' := Numeral.ne_of_isDigit hdigit rfl
    have h2 : c ≠ 'e' := Numeral.ne_of_isDigit hdigit rfl
    have h3 : c ≠ 'E' := Numeral.ne_of_isDigit hdigit rfl
    simp [h1, h2, h3]
  rw [Numeral.displaySigned]
  split_ifs
  · rw [isFraction, List.any_cons]
    exact hdigits
  · exact hdigits

theorem signedDigits_displaySigned (i : ℤ) : signedDigits (Numeral.displaySigned i) = i := by
  rw [Numeral.displaySigned]
  split_ifs with h
  · rw [signedDigits, Nat.ofDigitChars_ten_toDigits]
    omega
  · obtain ⟨d, ds, hd, hne⟩ := head_toDigits i.natAbs
    have hvalue : Nat.ofDigitChars 10 (d :: ds) 0 = i.natAbs := by
      rw [← hd, Nat.ofDigitChars_ten_toDigits]
    rw [hd, signedDigits]
    · rw [hvalue]
      omega
    · exact fun _ heq => hne (List.cons.inj heq).1

/-- **A printed integer denotes itself.** -/
theorem Literal.integer_ofInt (i : ℤ) : (Literal.ofInt i).integer = some i := by
  rw [Literal.integer, Literal.ofInt, isFraction_displaySigned, signedDigits_displaySigned]
  rfl

end Json
