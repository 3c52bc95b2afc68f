import Mathlib.Data.List.Count
import Mathlib.Data.List.Nodup
import ReactiveSheet.Json.Codec
import ReactiveSheet.Proofs.Json.RoundTrip

/-!
Views as JSON texts. Main statement: a view of an error or a finite number is read back from its
text, also with its keys in another order and among others, and an object with a fault is no view
(`CellView.views_survive_json`).
-/

namespace ReactiveSheet

namespace Json

variable {fields members : List (String × Json)} {given : List (Option String × Json)}
  {key name : String} {j k : Json}

/-- The members of an object are some fields, in any order and among members with other keys. -/
def Arranges (fields members : List (String × Json)) : Prop :=
  ∃ others : List (String × Json), members.Perm (fields ++ others) ∧
    ∀ m ∈ others, m.1 ∉ fields.map Prod.fst

theorem arranges_self (fields : List (String × Json)) : Arranges fields fields :=
  ⟨[], by simp, List.forall_mem_nil _⟩

theorem count_eq_length_filter (given : List (Option String × Json)) (key : String) :
    (given.map Prod.fst).count (some key) = (given.filter fun m => m.1 == some key).length := by
  rw [List.count, List.countP_map, List.countP_eq_length_filter]
  rfl

/-- A key has a value if it is there exactly once. -/
theorem member?_eq_some_iff :
    member? given key = some j ↔
      (given.map Prod.fst).count (some key) = 1 ∧ (some key, j) ∈ given := by
  rw [count_eq_length_filter, List.length_eq_one_iff]
  constructor
  · intro h
    unfold member? at h
    split at h
    · rename_i m hm
      cases h
      obtain ⟨hmem, hkey⟩ := List.mem_filter.1 (hm.symm ▸ List.mem_singleton_self m)
      exact ⟨⟨m, hm⟩, by rwa [← beq_iff_eq.1 hkey]⟩
    · cases h
  · rintro ⟨⟨m, hm⟩, hmem⟩
    have hfilter : (some key, j) ∈ given.filter fun m => m.1 == some key :=
      List.mem_filter.2 ⟨hmem, beq_self_eq_true _⟩
    rw [hm, List.mem_singleton] at hfilter
    rw [member?, hm, ← hfilter]

/-- The fields of an object are found, wherever they are among its members. -/
theorem member?_of_arranges (h : Arranges fields members) (hfields : (fields.map Prod.fst).Nodup)
    (hkey : (key, j) ∈ fields) : member? (members.map fun m => (some m.1, m.2)) key = some j := by
  obtain ⟨others, hperm, hothers⟩ := h
  rw [member?_eq_some_iff]
  constructor
  · have hmem : key ∈ fields.map Prod.fst := List.mem_map_of_mem hkey
    have hnone : (others.map Prod.fst).count key = 0 := by
      rw [List.count_eq_zero, List.mem_map]
      rintro ⟨m, hm, rfl⟩
      exact hothers m hm hmem
    calc ((members.map fun m => (some m.1, m.2)).map Prod.fst).count (some key)
        = ((members.map Prod.fst).map some).count (some key) := by
          rw [List.map_map, List.map_map]
          rfl
      _ = (members.map Prod.fst).count key :=
        List.count_map_of_injective _ _ (Option.some_injective _) _
      _ = ((fields ++ others).map Prod.fst).count key := (hperm.map _).count_eq _
      _ = 1 := by
        rw [List.map_append, List.count_append, hnone, List.count_eq_one_of_mem hfields hmem]
  · exact List.mem_map_of_mem (hperm.mem_iff.2 (List.mem_append_left _ hkey))

theorem eq_of_member? (h : member? given key = some j) (hk : (some key, k) ∈ given) : k = j := by
  have hmember : member? given key = some k :=
    member?_eq_some_iff.2 ⟨(member?_eq_some_iff.1 h).1, hk⟩
  exact Option.some.inj (hmember.symm.trans h)

/-- A name is given as a string, or as the only key of an object. -/
inductive Names (name : String) : Json → Prop
  | string : Names name (.ofString name)
  | key (j : Json) : Names name (.object [(some name, j)])

/-- A choice that is read is read from its name. -/
theorem Names.eq_some_of_choice? {α : Type} {ofName? : String → Option α} {a : α}
    {nothing : Json → Bool} (hname : k.Names name) (h : (k.choice? nothing).bind ofName? = some a) :
    ofName? name = some a := by
  cases hname with
  | string => exact h
  | key j =>
    rw [choice?] at h
    split_ifs at h
    · exact h
    · cases h

theorem eq_of_text? (h : j.text? = some name) : j = .ofString name := by
  cases j with
  | string s =>
    cases h
    rfl
  | _ => cases h

theorem isFinite_of_finite? {x : Float} (h : j.finite? = some x) : Binary64.isFinite x = true := by
  cases j with
  | number y =>
    rw [finite?] at h
    split_ifs at h with hy
    cases h
    exact hy
  | _ => cases h

end Json

namespace CellId

theorem ofJson?_toJson (id : CellId) : ofJson? id.toJson = some id := parse?_text id

theorem letter_bounds (id : CellId) : 'A' ≤ id.letter ∧ id.letter ≤ 'Z' := by
  have h : ∀ id ∈ all, 'A' ≤ id.letter ∧ id.letter ≤ 'Z' := by decide
  exact h id (mem_all id)

theorem ofJson?_eq_some_iff {j : Json} {id : CellId} : ofJson? j = some id ↔ j = id.toJson := by
  refine ⟨fun h => ?_, fun h => h ▸ ofJson?_toJson id⟩
  obtain ⟨s, hs, hparse⟩ := Option.bind_eq_some_iff.1 h
  rw [Json.eq_of_text? hs, parse?_eq_some_iff.1 hparse]
  rfl

end CellId

namespace CellError

theorem name_mem (e : CellError) :
    e.name ∈ ["CyclicDependency", "MalformedExpression", "DivisionByZero"] := by
  cases e <;> decide

theorem name_of_ofName? {name : String} {e : CellError} (h : ofName? name = some e) :
    e.name = name := by
  simpa using List.find?_some h

end CellError

namespace CellValue

/-- A value is an error or a finite number. -/
def IsFinite (w : CellValue) : Prop := ∀ x, w = .number x → Binary64.isFinite x = true

/-- A value has a kind and a detail, as members of an object or in this order in an array. -/
inductive Gives : Json → Json → Json → Prop
  | object {given : List (Option String × Json)} {k d : Json} (hkind : (some "kind", k) ∈ given)
      (hdetail : (some "detail", d) ∈ given) : Gives (.object given) k d
  | array (k d : Json) : Gives (.array [k, d]) k d

/-- What can be wrong with a value: a key of its object is missing or repeated, or the name of its
kind or of its error is not known. -/
inductive Faulty : Json → Prop
  | key {given : List (Option String × Json)} {key : String} (hkey : key ∈ ["kind", "detail"])
      (hcount : (given.map Prod.fst).count (some key) ≠ 1) : Faulty (.object given)
  | kind {j k d : Json} {name : String} (hj : Gives j k d) (hname : k.Names name)
      (hunknown : name ∉ ["Number", "Error"]) : Faulty j
  | error {j k d : Json} {name : String} (hj : Gives j k d) (hkind : k.Names "Error")
      (hname : d.Names name)
      (hunknown : name ∉ ["CyclicDependency", "MalformedExpression", "DivisionByZero"]) : Faulty j

variable {w : CellValue} {kind : Kind} {j k d : Json} {members : List (String × Json)}
  {given : List (Option String × Json)}

theorem ofDetail?_detail (hw : w.IsFinite)
    (nothing : Json → Bool) : ofDetail? nothing w.detail w.kind = some w := by
  cases w with
  | number x => simp [ofDetail?, detail, CellValue.kind, Json.finite?, hw x rfl]
  | error e =>
    have he : CellError.ofJson? nothing e.toJson = some e := CellError.ofName?_name e
    simp [ofDetail?, detail, CellValue.kind, he]

theorem Kind.ofJson?_name (kind : Kind) : Kind.ofJson? (.ofString kind.name) = some kind := by
  cases kind <;> decide

/-- A value is read from its kind and its detail, in any order and among other members. -/
theorem ofJson?_of_arranges (hw : w.IsFinite)
    (h : Json.Arranges [("kind", .ofString w.kind.name), ("detail", w.detail)] members) :
    ofJson? (.ofMembers members) = some w := by
  have hkind : Json.member? (members.map fun m => (some m.1, m.2)) "kind" =
      some (.ofString w.kind.name) := Json.member?_of_arranges h (by simp) (by simp)
  have hdetail : Json.member? (members.map fun m => (some m.1, m.2)) "detail" = some w.detail :=
    Json.member?_of_arranges h (by simp) (by simp)
  simp [ofJson?, Json.ofMembers, Json.keysReadable, hkind, hdetail, Kind.ofJson?_name,
    ofDetail?_detail hw]

/-- A value that is read has its kind and its detail in one place each. -/
theorem exists_of_ofJson? (h : ofJson? j = some w) :
    ∃ k d nothing kind, Kind.ofJson? k = some kind ∧ ofDetail? nothing d kind = some w ∧
      (∀ k' d', Gives j k' d' → k' = k ∧ d' = d) ∧
      ∀ given, j = .object given → Json.member? given "kind" = some k ∧
        Json.member? given "detail" = some d := by
  unfold ofJson? at h
  split at h
  · rename_i k d
    simp only [Option.bind_eq_bind, Option.bind_eq_some_iff] at h
    obtain ⟨name, hname, kind, hkind, hdetail⟩ := h
    have hjson : Kind.ofJson? k = some kind := by
      rw [Json.eq_of_text? hname]
      exact hkind
    refine ⟨k, d, _, kind, hjson, hdetail, fun k' d' hgives => ?_, nofun⟩
    cases hgives
    exact ⟨rfl, rfl⟩
  · rename_i given
    obtain ⟨-, h⟩ := Option.ite_none_right_eq_some.1 h
    simp only [Option.bind_eq_bind, Option.bind_eq_some_iff] at h
    obtain ⟨k, hk, d, hd, kind, hkind, hdetail⟩ := h
    refine ⟨k, d, _, kind, hkind, hdetail, fun k' d' hgives => ?_, fun given' heq => ?_⟩
    · cases hgives with
      | object hk' hd' => exact ⟨Json.eq_of_member? hk hk', Json.eq_of_member? hd hd'⟩
    · cases heq
      exact ⟨hk, hd⟩
  · cases h

theorem Kind.name_mem (kind : Kind) : kind.name ∈ ["Number", "Error"] := by
  cases kind <;> decide

theorem Kind.name_of_ofName? {name : String} (h : Kind.ofName? name = some kind) :
    kind.name = name := by
  simpa using List.find?_some h

/-- What is read as a value has no fault. -/
theorem not_faulty (h : ofJson? j = some w) : ¬ Faulty j := by
  obtain ⟨k, d, nothing, kind, hkind, hdetail, hgives, hmembers⟩ := exists_of_ofJson? h
  intro hfaulty
  cases hfaulty with
  | key hkey hcount =>
    obtain ⟨hk, hd⟩ := hmembers _ rfl
    rcases List.mem_pair.1 hkey with rfl | rfl
    · exact hcount (Json.member?_eq_some_iff.1 hk).1
    · exact hcount (Json.member?_eq_some_iff.1 hd).1
  | kind hj hname hunknown =>
    obtain ⟨rfl, rfl⟩ := hgives _ _ hj
    rw [← Kind.name_of_ofName? (hname.eq_some_of_choice? hkind)] at hunknown
    exact hunknown kind.name_mem
  | error hj hkindName hname hunknown =>
    obtain ⟨rfl, rfl⟩ := hgives _ _ hj
    cases hkindName.eq_some_of_choice? hkind
    obtain ⟨e, he, -⟩ := Option.map_eq_some_iff.1 hdetail
    rw [← CellError.name_of_ofName? (hname.eq_some_of_choice? he)] at hunknown
    exact hunknown e.name_mem

theorem isFinite_of_ofJson? (h : ofJson? j = some w) : w.IsFinite := by
  rintro x rfl
  obtain ⟨k, d, nothing, kind, -, hdetail, -⟩ := exists_of_ofJson? h
  cases kind with
  | number =>
    obtain ⟨y, hy, heq⟩ := Option.map_eq_some_iff.1 hdetail
    cases heq
    exact Json.isFinite_of_finite? hy
  | error =>
    obtain ⟨e, _, heq⟩ := Option.map_eq_some_iff.1 hdetail
    cases heq

end CellValue

namespace CellView

/-- An object tells a view: it has the fields, in any order and among members with other keys, and
so has the object that is its value. -/
def Tells (members : List (String × Json)) (v : CellView) : Prop :=
  ∃ value : List (String × Json),
    Json.Arranges [("kind", .ofString v.value.kind.name), ("detail", v.value.detail)] value ∧
    Json.Arranges [("id", v.id.toJson), ("formula", .ofString v.formula),
      ("value", .ofMembers value)] members

/-- What can be wrong with the object of a view: a key is missing or repeated, the name of the cell
is not one letter from `A` to `Z`, or something is wrong with the value. -/
inductive Faulty (given : List (Option String × Json)) : Prop
  | key {key : String} (hkey : key ∈ ["id", "formula", "value"])
      (hcount : (given.map Prod.fst).count (some key) ≠ 1)
  | id {j : Json} (hid : (some "id", j) ∈ given)
      (hletter : ∀ c, 'A' ≤ c → c ≤ 'Z' → j ≠ .ofString (String.singleton c))
  | value {j : Json} (hvalue : (some "value", j) ∈ given) (hfaulty : CellValue.Faulty j)

variable {v : CellView} {j id formula value : Json} {members : List (String × Json)}
  {given : List (Option String × Json)}

theorem ofJson?_of_tells (hv : v.value.IsFinite)
    (h : Tells members v) : ofJson? (.ofMembers members) = some v := by
  obtain ⟨value, hvalue, hmembers⟩ := h
  have hid : Json.member? (members.map fun m => (some m.1, m.2)) "id" = some v.id.toJson :=
    Json.member?_of_arranges hmembers (by simp) (by simp)
  have hformula : Json.member? (members.map fun m => (some m.1, m.2)) "formula" =
      some (.ofString v.formula) := Json.member?_of_arranges hmembers (by simp) (by simp)
  have hval : Json.member? (members.map fun m => (some m.1, m.2)) "value" =
      some (.ofMembers value) := Json.member?_of_arranges hmembers (by simp) (by simp)
  have hfields : ofFields? v.id.toJson (.ofString v.formula) (.ofMembers value) = some v := by
    simp [ofFields?, CellId.ofJson?_toJson, Json.text?, Json.ofString,
      CellValue.ofJson?_of_arranges hv hvalue]
  simpa [ofJson?, Json.ofMembers, Json.keysReadable, hid, hformula, hval] using hfields

theorem tells_self (v : CellView) :
    Tells [("id", v.id.toJson), ("formula", .ofString v.formula), ("value", v.value.toJson)] v :=
  ⟨_, Json.arranges_self _, Json.arranges_self _⟩

theorem writable_detail {w : CellValue} (hw : w.IsFinite) :
    w.detail.Writable := by
  cases w with
  | number x => exact .number (hw x rfl)
  | error e => exact .string e.name

theorem writable_toJson (hv : v.value.IsFinite) :
    v.toJson.Writable := by
  have hvalue : v.value.toJson.Writable := by
    refine .object ?_
    simpa using ⟨.string _, writable_detail hv⟩
  refine .object ?_
  simpa using ⟨.string _, .string _, hvalue⟩

theorem decode?_encode (hv : v.value.IsFinite) :
    decode? v.encode = some v := by
  rw [decode?, encode, (writable_toJson hv).read_text, Option.bind_some]
  exact ofJson?_of_tells hv (tells_self v)

theorem exists_of_ofFields? (h : ofFields? id formula value = some v) :
    CellId.ofJson? id = some v.id ∧ CellValue.ofJson? value = some v.value := by
  simp only [ofFields?, Option.bind_eq_bind, Option.bind_eq_some_iff] at h
  obtain ⟨a, ha, s, hs, w, hw, heq⟩ := h
  cases heq
  exact ⟨ha, hw⟩

theorem exists_of_ofJson? (h : ofJson? j = some v) :
    ∃ id formula value, CellId.ofJson? id = some v.id ∧ CellValue.ofJson? value = some v.value ∧
      ∀ given, j = .object given → Json.member? given "id" = some id ∧
        Json.member? given "formula" = some formula ∧ Json.member? given "value" = some value := by
  unfold ofJson? at h
  split at h
  · rename_i id formula value
    obtain ⟨hid, hvalue⟩ := exists_of_ofFields? h
    exact ⟨id, formula, value, hid, hvalue, nofun⟩
  · rename_i given
    obtain ⟨-, h⟩ := Option.ite_none_right_eq_some.1 h
    simp only [Option.bind_eq_bind, Option.bind_eq_some_iff] at h
    obtain ⟨id, hid, formula, hformula, value, hvalue, hfields⟩ := h
    obtain ⟨hidValue, hvalueValue⟩ := exists_of_ofFields? hfields
    refine ⟨id, formula, value, hidValue, hvalueValue, fun given' heq => ?_⟩
    cases heq
    exact ⟨hid, hformula, hvalue⟩
  · cases h

/-- What is read as a view has no fault. -/
theorem not_faulty (h : ofJson? (.object given) = some v) : ¬ Faulty given := by
  obtain ⟨id, formula, value, hid, hvalue, hmembers⟩ := exists_of_ofJson? h
  obtain ⟨hidMember, hformulaMember, hvalueMember⟩ := hmembers _ rfl
  intro hfaulty
  cases hfaulty with
  | key hkey hcount =>
    simp only [List.mem_cons, List.not_mem_nil, or_false] at hkey
    rcases hkey with rfl | rfl | rfl
    · exact hcount (Json.member?_eq_some_iff.1 hidMember).1
    · exact hcount (Json.member?_eq_some_iff.1 hformulaMember).1
    · exact hcount (Json.member?_eq_some_iff.1 hvalueMember).1
  | id hid' hletter =>
    obtain ⟨hA, hZ⟩ := v.id.letter_bounds
    refine hletter v.id.letter hA hZ ?_
    rw [Json.eq_of_member? hidMember hid', CellId.ofJson?_eq_some_iff.1 hid]
    rfl
  | value hvalue' hfaulty =>
    rw [Json.eq_of_member? hvalueMember hvalue'] at hfaulty
    exact CellValue.not_faulty hvalue hfaulty

/-- A view of an error or of a finite number is read back from its text, and from every text whose
object has its keys in another order and among others, and every view that is read is such a view.
An object is no view when a key is missing or repeated, the name of the cell is not one letter from
`A` to `Z`, or the name of the kind or of the error is not known. -/
theorem views_survive_json :
    (∀ v : CellView, v.value.IsFinite →
      decode? v.encode = some v ∧
      ∀ members, Tells members v →
        (∀ text, Json.read text = some (.ofMembers members) → decode? text = some v) ∧
        ((∀ m ∈ members, m.2.Writable) →
          decode? (String.ofList (Json.ofMembers members).text) = some v)) ∧
    (∀ text v, decode? text = some v → decode? v.encode = some v) ∧
    ∀ text given, Json.read text = some (.object given) → Faulty given → decode? text = none := by
  refine ⟨fun v hv => ⟨?_, fun members htells => ⟨fun text hread => ?_, fun hwritable => ?_⟩⟩,
    fun text v hdecode => ?_, fun text given hread hfaulty => ?_⟩
  · exact decode?_encode hv
  · rw [decode?, hread, Option.bind_some, ofJson?_of_tells hv htells]
  · rw [decode?, (Json.Writable.object hwritable).read_text, Option.bind_some,
      ofJson?_of_tells hv htells]
  · obtain ⟨j, _, hj⟩ := Option.bind_eq_some_iff.1 hdecode
    obtain ⟨_, _, _, _, hvalue, _⟩ := exists_of_ofJson? hj
    exact decode?_encode (CellValue.isFinite_of_ofJson? hvalue)
  · rw [decode?, hread, Option.bind_some, Option.eq_none_iff_forall_ne_some]
    exact fun v hv => not_faulty hv hfaulty

/-- A formula with a quote, a tab and a letter beyond ASCII, and an error. -/
def quotedView : CellView :=
  ⟨(CellId.ofLetter? 'B').getD default, "\"\té", .error .divisionByZero⟩

/-- A further key, and then the fields of `quotedView` from the last to the first, with the detail
before the kind. -/
def reversedMembers : List (String × Json) :=
  [("note", .array [.null, .number 0.5]),
    ("value", .ofMembers [("detail", .ofString "DivisionByZero"), ("kind", .ofString "Error")]),
    ("formula", .ofString "\"\té"), ("id", .ofString "B")]

/-- A view in a hard form, one in the form of an array, and an object that has a key twice. -/
theorem hard_texts_of_views :
    (Tells reversedMembers quotedView ∧
      decode? (String.ofList (Json.ofMembers reversedMembers).text) = some quotedView ∧
      decode? quotedView.encode = some quotedView) ∧
    (∃ v, decode? "[\"A\",\"1\",[\"Number\",-0]]" = some v ∧ decode? v.encode = some v) ∧
    decode? (String.ofList (Json.ofMembers (("id", .ofString "B") :: reversedMembers)).text) =
      none := by
  obtain ⟨hviews, hread, hfaults⟩ := views_survive_json
  have hview : quotedView.value.IsFinite := nofun
  have htells : Tells reversedMembers quotedView := by
    refine ⟨[("detail", .ofString "DivisionByZero"), ("kind", .ofString "Error")],
      ⟨[], .swap .., List.forall_mem_nil _⟩, ⟨[("note", .array [.null, .number 0.5])], ?_, by simp⟩⟩
    exact (List.reverse_perm reversedMembers).symm
  have hwritable : ∀ m ∈ reversedMembers, m.2.Writable := by
    have hnumber : Binary64.isFinite 0.5 = true := by decide +kernel
    have hnote : (Json.array [.null, .number 0.5]).Writable := by
      refine .array ?_
      simpa using ⟨.null, .number hnumber⟩
    have hvalue : (Json.ofMembers
        [("detail", .ofString "DivisionByZero"), ("kind", .ofString "Error")]).Writable := by
      refine .object ?_
      simpa using ⟨.string _, .string _⟩
    simpa [reversedMembers] using ⟨hnote, hvalue, .string _, .string _⟩
  have harray : decode? "[\"A\",\"1\",[\"Number\",-0]]" = some ⟨⟨0⟩, "1", .number (-0)⟩ := by
    decide +kernel
  obtain ⟨hencode, hmembers⟩ := hviews quotedView hview
  refine ⟨⟨htells, (hmembers _ htells).2 hwritable, hencode⟩, ⟨_, harray, hread _ _ harray⟩, ?_⟩
  have hid : "id" ∈ ["id", "formula", "value"] := by simp
  refine hfaults _ _ (Json.Writable.object ?_).read_text (.key hid (by decide))
  exact List.forall_mem_cons.2 ⟨.string _, hwritable⟩

end CellView
end ReactiveSheet
