import BinapiGenerator.Schema

/-! `generateField`, the declaration of one struct member with its struc and binapi tags,
and the getters written after each generated struct. -/

namespace BinapiGenerator

open Go

/-- The `struc` tag `generateField` gives a field: the fixed length of an array, or else
`sizeof` of the last sibling whose `SizeFrom` names the field. -/
def strucTag (h : Helpers) (fields : List Field) (field : Field) (dataType : String) :
    Option String :=
  if field.length > 0 then some ("[" ++ toString field.length ++ "]" ++ dataType)
  else fields.foldl (fun tag f =>
    if f.sizeFrom = field.name then some ("sizeof=" ++ h.camelCaseName f.name) else tag) none

def binapiTag (ctx : Context) (field : Field) : Option String :=
  let name := if ctx.includeBinapiNames then some field.name else none
  if field.limit > 0 then some (name.getD "" ++ ",limit=" ++ toString field.limit) else name

/-- The map `fieldTags`, its keys in the order `sort.Strings` gives them. -/
def fieldTags (h : Helpers) (ctx : Context) (fields : List Field) (field : Field)
    (dataType : String) : List (String × String) :=
  ((binapiTag ctx field).map ("binapi", ·)).toList ++
    ((strucTag h fields field dataType).map ("struc", ·)).toList

def renderTags : Nat → List (String × String) → List String
  | _, [] => []
  | n, (k, t) :: rest =>
    (if n > 0 then [" "] else []) ++ (k ++ ":\"" ++ t ++ "\"") :: renderTags (n + 1) rest

def fieldIdent (h : Helpers) (field : Field) : String :=
  h.camelCaseName (trimPrefix field.name "_")

def fieldDataType (h : Helpers) (field : Field) : String :=
  if (field.length > 0 ∨ field.sizeFrom ≠ "") ∧ h.convertToGoType field.type = "uint8" then "byte"
  else h.convertToGoType field.type

/-- `generateField` for the field at index `i` of `fields`; its callers pass the index of
a field. -/
def generateField (h : Helpers) (ctx : Context) (fields : List Field) (i : Nat) :
    List String :=
  match fields[i]? with
  | none => []
  | some field =>
    let fieldName := fieldIdent h field
    let lenField := if field.type = "string" then
        ["\tXXX_" ++ fieldName ++ "Len uint32 `struc:\"sizeof=" ++ fieldName ++ "\"`\n"]
      else []
    let dataType := fieldDataType h field
    let fieldType := if field.length > 0 ∨ field.sizeFrom ≠ "" then "[]" ++ dataType else dataType
    let tags := fieldTags h ctx fields field dataType
    lenField ++ ["\t" ++ fieldName ++ " " ++ fieldType] ++
      (if tags = [] then [] else "\t`" :: renderTags 0 tags ++ ["`"]) ++ ["\n"]

/-- The template of the getters that return a `%q` literal. -/
def generateStringGetter (pt : PrintTable) (structName method value : String) : List String :=
  ["func (*" ++ structName ++ ") " ++ method ++ "() string \x7b\n\treturn " ++ quote pt value ++
    "\n\x7d\n"]

def generateMessageNameGetter (pt : PrintTable) (structName msgName : String) : List String :=
  generateStringGetter pt structName "GetMessageName" msgName

def generateTypeNameGetter (pt : PrintTable) (structName msgName : String) : List String :=
  generateStringGetter pt structName "GetTypeName" msgName

def generateCrcGetter (pt : PrintTable) (structName crc : String) : List String :=
  generateStringGetter pt structName "GetCrcString" (trimPrefix crc "0x")

def generateMessageTypeGetter (structName : String) (msgType : MessageType) : List String :=
  ["func (*" ++ structName ++ ") GetMessageType() api.MessageType \x7b\n",
    match msgType with
    | .requestMessage => "\treturn api.RequestMessage\n"
    | .replyMessage => "\treturn api.ReplyMessage\n"
    | .eventMessage => "\treturn api.EventMessage\n"
    | .otherMessage => "\treturn api.OtherMessage\n",
    "\x7d\n"]

theorem foldl_last_match {α β : Type} (p : α → Prop) [DecidablePred p] (g : α → β)
    (init : Option β) (l : List α) :
    l.foldl (fun acc a => if p a then some (g a) else acc) init =
      ((l.reverse.find? (fun a => decide (p a))).map g).or init := by
  obtain ⟨r, rfl⟩ : ∃ r, l = r.reverse := ⟨l.reverse, by simp⟩
  simp only [List.foldl_reverse, List.reverse_reverse]
  induction r with
  | nil => simp
  | cons a r ih => by_cases ha : p a <;> simp [ha, ih]

theorem strucTag_of_length_zero (h : Helpers) (fields : List Field) {field : Field}
    (dataType : String) (hl : field.length = 0) :
    strucTag h fields field dataType =
      (fields.reverse.find? (fun f => decide (f.sizeFrom = field.name))).map
        (fun f => "sizeof=" ++ h.camelCaseName f.name) := by
  simp [strucTag, hl, foldl_last_match]

theorem find?_reverse_of_last {α : Type} (p : α → Bool) {pre post : List α} {a : α}
    (ha : p a = true) (hpost : ∀ b ∈ post, p b = false) :
    (pre ++ a :: post).reverse.find? p = some a := by
  have hn : post.reverse.find? p = none := List.find?_eq_none.mpr (by simpa using hpost)
  simp [List.find?_append, hn, ha]

theorem mem_renderTags {k t : String} (n : Nat) {tags : List (String × String)}
    (hk : (k, t) ∈ tags) : (k ++ ":\"" ++ t ++ "\"") ∈ renderTags n tags := by
  induction tags generalizing n with
  | nil => simp at hk
  | cons kt rest ih =>
    obtain ⟨k', t'⟩ := kt
    rcases List.mem_cons.mp hk with he | hr
    · cases he
      simp [renderTags]
    · simp [renderTags, ih (n + 1) hr]

theorem strucTag_mem_generateField (h : Helpers) (ctx : Context) {fields : List Field} {i : Nat}
    {field : Field} {tag : String} (hi : fields[i]? = some field)
    (ht : strucTag h fields field (fieldDataType h field) = some tag) :
    ("struc:\"" ++ tag ++ "\"") ∈ generateField h ctx fields i := by
  have hm : ("struc", tag) ∈ fieldTags h ctx fields field (fieldDataType h field) := by
    simp [fieldTags, ht]
  have hne : fieldTags h ctx fields field (fieldDataType h field) ≠ [] := List.ne_nil_of_mem hm
  have hr := mem_renderTags 0 hm
  rw [show "struc" ++ ":\"" = "struc:\"" from rfl] at hr
  simp [generateField, hi, if_neg hne, hr]

theorem camelCaseName_trimPrefix (h : Helpers) (name : String) :
    h.camelCaseName (trimPrefix name "_") = h.camelCaseName name := by
  unfold trimPrefix hasPrefix
  split
  · next hp =>
    obtain ⟨t, ht⟩ := List.isPrefixOf_iff_prefix.mp hp
    have hn : name = "_" ++ ⟨t⟩ := String.ext (by simpa using ht.symm)
    subst hn
    exact (h.camelCaseName_underscore _).symm
  · rfl

/-- The member for a field `C` that is not a fixed array is tagged `sizeof` of the last field
`A` whose `SizeFrom` names `C`, which is the identifier `generateField` declares `A` under. -/
theorem generateField_sizeof_last (h : Helpers) (ctx : Context) {fields pre post : List Field}
    {i : Nat} {A C : Field} (hi : fields[i]? = some C) (hf : fields = pre ++ A :: post)
    (hA : A.sizeFrom = C.name) (hpost : ∀ B ∈ post, B.sizeFrom ≠ C.name) (hC : C.length = 0) :
    strucTag h fields C (fieldDataType h C) = some ("sizeof=" ++ h.camelCaseName A.name) ∧
      ("struc:\"sizeof=" ++ h.camelCaseName A.name ++ "\"") ∈ generateField h ctx fields i ∧
      h.camelCaseName A.name = fieldIdent h A := by
  have ht : strucTag h fields C (fieldDataType h C) = some ("sizeof=" ++ h.camelCaseName A.name) := by
    rw [strucTag_of_length_zero h fields _ hC, hf,
      find?_reverse_of_last _ (by simpa using hA) (by simpa using hpost)]
    rfl
  exact ⟨ht, by simpa [String.append_assoc] using strucTag_mem_generateField h ctx hi ht,
    (camelCaseName_trimPrefix h A.name).symm⟩

theorem generateField_sizeof_data :
    let count : Field := ⟨"count", "u32", 0, "", 0⟩
    let data : Field := ⟨"data", "u8", 0, "count", 0⟩
    [count, data][0]? = some count ∧ [count, data] = [count] ++ data :: [] ∧
      data.sizeFrom = count.name ∧ (∀ B ∈ ([] : List Field), B.sizeFrom ≠ count.name) ∧
      count.length = 0 ∧
      (strucTag Helpers.vpp [count, data] count (fieldDataType Helpers.vpp count) =
          some ("sizeof=" ++ Helpers.vpp.camelCaseName data.name) ∧
        ("struc:\"sizeof=" ++ Helpers.vpp.camelCaseName data.name ++ "\"") ∈
          generateField Helpers.vpp (commentContext "") [count, data] 0 ∧
        Helpers.vpp.camelCaseName data.name = fieldIdent Helpers.vpp data) := by
  intro count data
  exact ⟨rfl, rfl, rfl, by simp, rfl,
    @generateField_sizeof_last Helpers.vpp (commentContext "") [count, data] [count] [] 0 data
      count rfl rfl rfl (by simp) rfl⟩

end BinapiGenerator
