import BinapiGenerator.Comment
import BinapiGenerator.Field

/-! `generateType` and `generateMessage`: the struct of a record or message. A message's
field loop also infers its role from the names at positions 1 and 2, and skips the header
fields that come before its first member. -/

namespace BinapiGenerator

open Go

def isInternalField (h : Helpers) (name : String) : Bool :=
  h.toLower name = h.crcField || h.toLower name = h.msgIdField

def isHeaderField (h : Helpers) (name : String) : Bool :=
  h.toLower name = h.clientIndexField || h.toLower name = h.contextField

def typeLoop (h : Helpers) (ctx : Context) (fields : List Field) : Nat → List Field → List String
  | _, [] => []
  | i, field :: rest =>
    (if isInternalField h field.name then [] else generateField h ctx fields i) ++
      typeLoop h ctx fields (i + 1) rest

def generateType (h : Helpers) (ctx : Context) (typ : Typ) : List String :=
  let name := h.camelCaseName typ.name
  generateComment ctx name typ.name "type" ++ ["type " ++ name ++ " struct \x7b\n"] ++
    typeLoop h ctx typ.fields 0 typ.fields ++ ["\x7d\n"] ++ generateTypeNameGetter h.printTable name typ.name ++
    (if typ.crc ≠ "" then generateCrcGetter h.printTable name typ.crc else []) ++ ["\n"]

/-- The state of the field loop of `generateMessage`, with what it has written. -/
structure MessageLoop where
  msgType : MessageType
  wasClientIndex : Bool
  n : Nat
  out : List String

/-- The role inference of one iteration of the field loop, at index `i`. -/
def classifyStep (h : Helpers) (s : MessageLoop) (i : Nat) (name : String) : MessageLoop :=
  if i = 1 then
    if name = h.clientIndexField then { s with msgType := .eventMessage, wasClientIndex := true }
    else if name = h.contextField then { s with msgType := .replyMessage }
    else s
  else if i = 2 then
    if s.wasClientIndex ∧ name = h.contextField then { s with msgType := .requestMessage }
    else s
  else s

/-- The skip rules and the member declaration of one iteration of the field loop. -/
def emitStep (h : Helpers) (ctx : Context) (fields : List Field) (s : MessageLoop) (i : Nat)
    (field : Field) : MessageLoop :=
  if isInternalField h field.name then s
  else if isHeaderField h field.name ∧ s.n = 0 then s
  else { s with n := s.n + 1,
                out := s.out ++ (if s.n + 1 = 1 then ["\n"] else []) ++
                  generateField h ctx fields i }

def messageLoop (h : Helpers) (ctx : Context) (fields : List Field) :
    MessageLoop → Nat → List Field → MessageLoop
  | s, _, [] => s
  | s, i, field :: rest =>
    messageLoop h ctx fields (emitStep h ctx fields (classifyStep h s i field.name) i field)
      (i + 1) rest

def fieldLoop (h : Helpers) (ctx : Context) (msg : Message) : MessageLoop :=
  messageLoop h ctx msg.fields ⟨.otherMessage, false, 0, []⟩ 0 msg.fields

def generateMessage (h : Helpers) (ctx : Context) (msg : Message) : List String :=
  let name := h.camelCaseName msg.name
  let s := fieldLoop h ctx msg
  generateComment ctx name msg.name "message" ++ ["type " ++ name ++ " struct \x7b"] ++
    s.out ++ ["\x7d\n"] ++ generateMessageNameGetter h.printTable name msg.name ++
    generateCrcGetter h.printTable name msg.crc ++ generateMessageTypeGetter name s.msgType ++ ["\n"]

section Loop

variable {h : Helpers} {ctx : Context} {fields : List Field}

@[simp] theorem classifyStep_n (s : MessageLoop) (i : Nat) (name : String) :
    (classifyStep h s i name).n = s.n := by
  unfold classifyStep; split_ifs <;> rfl

@[simp] theorem classifyStep_out (s : MessageLoop) (i : Nat) (name : String) :
    (classifyStep h s i name).out = s.out := by
  unfold classifyStep; split_ifs <;> rfl

@[simp] theorem emitStep_msgType (s : MessageLoop) (i : Nat) (field : Field) :
    (emitStep h ctx fields s i field).msgType = s.msgType := by
  unfold emitStep; split_ifs <;> rfl

@[simp] theorem emitStep_wasClientIndex (s : MessageLoop) (i : Nat) (field : Field) :
    (emitStep h ctx fields s i field).wasClientIndex = s.wasClientIndex := by
  unfold emitStep; split_ifs <;> rfl

@[simp] theorem classifyStep_zero (s : MessageLoop) (name : String) :
    classifyStep h s 0 name = s := rfl

@[simp] theorem classifyStep_one_msgType (s : MessageLoop) (name : String) :
    (classifyStep h s 1 name).msgType =
      if name = h.clientIndexField then .eventMessage
      else if name = h.contextField then .replyMessage else s.msgType := by
  simp only [classifyStep, if_true]; split_ifs <;> rfl

@[simp] theorem classifyStep_one_wasClientIndex (s : MessageLoop) (name : String) :
    (classifyStep h s 1 name).wasClientIndex =
      (decide (name = h.clientIndexField) || s.wasClientIndex) := by
  simp only [classifyStep, if_true]; split_ifs <;> simp_all

@[simp] theorem classifyStep_two_msgType (s : MessageLoop) (name : String) :
    (classifyStep h s 2 name).msgType =
      if s.wasClientIndex ∧ name = h.contextField then .requestMessage else s.msgType := by
  simp only [classifyStep, show (2 : Nat) ≠ 1 by decide, if_false, if_true]; split_ifs <;> rfl

theorem messageLoop_msgType_of_three_le (s : MessageLoop) {i : Nat} (hi : 3 ≤ i)
    (rest : List Field) : (messageLoop h ctx fields s i rest).msgType = s.msgType := by
  induction rest generalizing s i with
  | nil => rfl
  | cons f rest ih =>
    have hc : classifyStep h s i f.name = s := by
      simp [classifyStep, show i ≠ 1 by omega, show i ≠ 2 by omega]
    simp [messageLoop, ih _ (show 3 ≤ i + 1 by omega), hc]

theorem emitStep_skip (s : MessageLoop) (i : Nat) {f : Field}
    (hf : isInternalField h f.name = true ∨ (isHeaderField h f.name = true ∧ s.n = 0)) :
    emitStep h ctx fields s i f = s := by
  rcases hf with hf | ⟨hh, hn⟩ <;> simp [emitStep, *]

theorem emitStep_declare (s : MessageLoop) (i : Nat) {f : Field}
    (hf : isInternalField h f.name = false) (hh : isHeaderField h f.name = false ∨ s.n ≠ 0) :
    (emitStep h ctx fields s i f).n = s.n + 1 ∧
      (emitStep h ctx fields s i f).out =
        s.out ++ (if s.n = 0 then ["\n"] else []) ++ generateField h ctx fields i := by
  have hs : ¬(isHeaderField h f.name = true ∧ s.n = 0) := by rcases hh with hh | hh <;> simp [hh]
  simp [emitStep, hf, hs]

theorem messageLoop_out_of_pos (s : MessageLoop) (i : Nat) (rest : List Field) (hn : 0 < s.n) :
    (messageLoop h ctx fields s i rest).out = s.out ++
      ((rest.enumFrom i).filter (fun p => !isInternalField h p.2.name)).flatMap
        (fun p => generateField h ctx fields p.1) := by
  induction rest generalizing s i with
  | nil => simp [messageLoop]
  | cons f rest ih =>
    simp only [messageLoop, List.enumFrom_cons, List.filter_cons]
    cases hf : isInternalField h f.name
    · obtain ⟨h1, h2⟩ := @emitStep_declare h ctx fields (classifyStep h s i f.name) i f hf
        (Or.inr (by simp; omega))
      rw [ih _ _ (by omega), h2]
      simp [show s.n ≠ 0 by omega]
    · rw [emitStep_skip _ i (Or.inl hf), ih _ _ (by simpa using hn)]
      simp

theorem messageLoop_out_of_zero (s : MessageLoop) (i : Nat) (rest : List Field) (hn : s.n = 0) :
    let M := ((rest.enumFrom i).filter (fun p => !isInternalField h p.2.name)).dropWhile
      (fun p => isHeaderField h p.2.name)
    (messageLoop h ctx fields s i rest).out =
      s.out ++ (if M = [] then [] else "\n" :: M.flatMap (fun p => generateField h ctx fields p.1)) := by
  induction rest generalizing s i with
  | nil => simp [messageLoop]
  | cons f rest ih =>
    simp only [messageLoop, List.enumFrom_cons, List.filter_cons]
    cases hf : isInternalField h f.name
    · cases hh : isHeaderField h f.name
      · obtain ⟨h1, h2⟩ := @emitStep_declare h ctx fields (classifyStep h s i f.name) i f hf
          (Or.inl hh)
        rw [messageLoop_out_of_pos _ _ _ (by omega), h2]
        simp [hn, hh]
      · rw [emitStep_skip _ i (Or.inr ⟨hh, by simpa using hn⟩), ih _ _ (by simpa using hn)]
        simp only [hf, Bool.not_false, if_true]
        rw [List.dropWhile_cons_of_pos (by simpa using hh)]
        simp
    · rw [emitStep_skip _ i (Or.inl hf), ih _ _ (by simpa using hn)]
      simp

end Loop

/-- The role table: a function of the names at positions 1 and 2 alone. -/
def roleOf (h : Helpers) (n1 n2 : Option String) : MessageType :=
  if n1 = some h.clientIndexField then
    if n2 = some h.contextField then .requestMessage else .eventMessage
  else if n1 = some h.contextField then .replyMessage else .otherMessage

theorem fieldLoop_msgType (h : Helpers) (ctx : Context) (msg : Message) :
    (fieldLoop h ctx msg).msgType =
      roleOf h (msg.fields[1]?.map Field.name) (msg.fields[2]?.map Field.name) := by
  obtain ⟨name, crc, fields⟩ := msg
  rcases fields with _ | ⟨f0, _ | ⟨f1, _ | ⟨f2, rest⟩⟩⟩
  · rfl
  · simp [fieldLoop, messageLoop, roleOf]
  · simp only [fieldLoop, messageLoop, emitStep_msgType, classifyStep_zero,
      classifyStep_one_msgType]
    simp [roleOf]
  · simp only [fieldLoop, messageLoop]
    rw [messageLoop_msgType_of_three_le _ (le_refl 3)]
    simp only [emitStep_msgType, emitStep_wasClientIndex, classifyStep_zero,
      classifyStep_one_msgType, classifyStep_one_wasClientIndex, classifyStep_two_msgType]
    by_cases h1 : f1.name = h.clientIndexField <;> simp [roleOf, h1]

theorem roleOf_spec (h : Helpers) (n1 n2 : Option String) :
    (roleOf h n1 n2 = .requestMessage ↔
      n1 = some h.clientIndexField ∧ n2 = some h.contextField) ∧
    (roleOf h n1 n2 = .eventMessage ↔
      n1 = some h.clientIndexField ∧ n2 ≠ some h.contextField) ∧
    (roleOf h n1 n2 = .replyMessage ↔ n1 = some h.contextField) ∧
    (roleOf h n1 n2 = .otherMessage ↔
      n1 ≠ some h.clientIndexField ∧ n1 ≠ some h.contextField) := by
  have hne := h.clientIndexField_ne_contextField
  unfold roleOf
  split_ifs <;> simp_all

theorem fieldLoop_out (h : Helpers) (ctx : Context) (msg : Message) :
    let M := (msg.fields.enum.filter (fun p => !isInternalField h p.2.name)).dropWhile
      (fun p => isHeaderField h p.2.name)
    (fieldLoop h ctx msg).out =
      if M = [] then [] else "\n" :: M.flatMap (fun p => generateField h ctx msg.fields p.1) :=
  messageLoop_out_of_zero _ 0 msg.fields rfl

/-- The number of fields a message of each role starts with: the message id, then the
client index and the context of a request, one of them for a reply or an event. -/
def headerLength : MessageType → Nat
  | .requestMessage => 3
  | .replyMessage => 2
  | .eventMessage => 2
  | .otherMessage => 1

theorem isHeaderField_of_name (h : Helpers) {name : String}
    (hn : name = h.clientIndexField ∨ name = h.contextField) : isHeaderField h name = true := by
  rcases hn with rfl | rfl <;> simp [isHeaderField, h.lower_clientIndexField, h.lower_contextField]

theorem dropWhile_header_succ (h : Helpers) {fields : List Field} {j : Nat} {name : String}
    (hj : fields[j]?.map Field.name = some name)
    (hn : name = h.clientIndexField ∨ name = h.contextField) :
    ((fields.drop j).enumFrom j).dropWhile (fun p => isHeaderField h p.2.name) =
      ((fields.drop (j + 1)).enumFrom (j + 1)).dropWhile (fun p => isHeaderField h p.2.name) := by
  obtain ⟨f, hf, rfl⟩ := Option.map_eq_some'.mp hj
  obtain ⟨hlt, rfl⟩ := List.getElem?_eq_some_iff.mp hf
  rw [List.drop_eq_getElem_cons hlt, List.enumFrom_cons,
    List.dropWhile_cons_of_pos (by simpa using isHeaderField_of_name h hn)]

theorem enum_filter_internal (h : Helpers) {fields rest : List Field} {f0 : Field}
    (hfs : fields = f0 :: rest) (hf0 : isInternalField h f0.name = true)
    (hrest : ∀ f ∈ rest, isInternalField h f.name = false) :
    fields.enum.filter (fun p => !isInternalField h p.2.name) = (fields.drop 1).enumFrom 1 := by
  subst hfs
  rw [List.enum_cons, List.filter_cons, hf0]
  refine List.filter_eq_self.mpr fun p hp => ?_
  have hmem : p.2 ∈ rest := by
    simpa [List.enumFrom_map_snd] using List.mem_map_of_mem Prod.snd hp
  simpa using hrest p.2 hmem

theorem dropWhile_header_headerLength (h : Helpers) (fields : List Field) :
    ((fields.drop 1).enumFrom 1).dropWhile (fun p => isHeaderField h p.2.name) =
      ((fields.drop (headerLength (roleOf h (fields[1]?.map Field.name)
          (fields[2]?.map Field.name)))).enumFrom
        (headerLength (roleOf h (fields[1]?.map Field.name) (fields[2]?.map Field.name)))).dropWhile
        (fun p => isHeaderField h p.2.name) := by
  unfold roleOf
  split_ifs with h1 h2 h3
  · rw [dropWhile_header_succ h h1 (Or.inl rfl), dropWhile_header_succ h h2 (Or.inr rfl)]
    rfl
  · rw [dropWhile_header_succ h h1 (Or.inl rfl)]
    rfl
  · rw [dropWhile_header_succ h h3 (Or.inr rfl)]
    rfl
  · rfl

theorem dropWhile_header_of_getElem? (h : Helpers) {fields : List Field} {k : Nat}
    (hk : (fields[k]?).all (fun f => !isHeaderField h f.name) = true) :
    ((fields.drop k).enumFrom k).dropWhile (fun p => isHeaderField h p.2.name) =
      (fields.drop k).enumFrom k := by
  cases hget : fields[k]? with
  | none => simp [List.drop_eq_nil_of_le (List.getElem?_eq_none_iff.mp hget)]
  | some f =>
    obtain ⟨hlt, hf⟩ := List.getElem?_eq_some_iff.mp hget
    rw [hget] at hk
    simp only [List.drop_eq_getElem_cons hlt, List.enumFrom_cons, hf]
    exact List.dropWhile_cons_of_neg (by simpa using hk)

theorem generateMessage_struct_block (h : Helpers) (ctx : Context) (msg : Message) :
    List.IsInfix (("type " ++ h.camelCaseName msg.name ++ " struct \x7b") ::
      (fieldLoop h ctx msg).out ++ ["\x7d\n"]) (generateMessage h ctx msg) :=
  ⟨generateComment ctx (h.camelCaseName msg.name) msg.name "message",
    generateMessageNameGetter h.printTable (h.camelCaseName msg.name) msg.name ++
      generateCrcGetter h.printTable (h.camelCaseName msg.name) msg.crc ++
      generateMessageTypeGetter (h.camelCaseName msg.name) (fieldLoop h ctx msg).msgType ++ ["\n"],
    by simp [generateMessage]⟩

theorem generateMessage_typeGetter_block (h : Helpers) (ctx : Context) (msg : Message) :
    List.IsInfix (generateMessageTypeGetter (h.camelCaseName msg.name) (fieldLoop h ctx msg).msgType)
      (generateMessage h ctx msg) :=
  ⟨generateComment ctx (h.camelCaseName msg.name) msg.name "message" ++
      ("type " ++ h.camelCaseName msg.name ++ " struct \x7b") :: (fieldLoop h ctx msg).out ++
      ["\x7d\n"] ++ generateMessageNameGetter h.printTable (h.camelCaseName msg.name) msg.name ++
      generateCrcGetter h.printTable (h.camelCaseName msg.name) msg.crc, ["\n"],
    by simp [generateMessage]⟩

/-- For a message that starts with the message id and has no other internal field, the
members `generateMessage` writes into the struct are the fields after the role's header, less
any header fields that lead them; so exactly the fields after the header when the first of
them is not a header field. -/
theorem generateMessage_header_members (h : Helpers) (ctx : Context) (msg : Message)
    (h0 : msg.fields[0]?.map Field.name = some h.msgIdField)
    (hrest : ∀ f ∈ msg.fields.tail, isInternalField h f.name = false) :
    let k := headerLength (fieldLoop h ctx msg).msgType
    let M := ((msg.fields.drop k).enumFrom k).dropWhile (fun p => isHeaderField h p.2.name)
    (fieldLoop h ctx msg).out =
      (if M = [] then [] else "\n" :: M.flatMap (fun p => generateField h ctx msg.fields p.1)) ∧
    ((msg.fields[k]?).all (fun f => !isHeaderField h f.name) = true →
      M = (msg.fields.drop k).enumFrom k) ∧
    List.IsInfix (("type " ++ h.camelCaseName msg.name ++ " struct \x7b") ::
      (fieldLoop h ctx msg).out ++ ["\x7d\n"]) (generateMessage h ctx msg) := by
  intro k M
  obtain ⟨f0, rest, hfs⟩ : ∃ f0 rest, msg.fields = f0 :: rest := by
    cases hm : msg.fields with
    | nil => simp [hm] at h0
    | cons f0 rest => exact ⟨f0, rest, rfl⟩
  have hf0 : isInternalField h f0.name = true := by
    simp [hfs] at h0
    simp [isInternalField, h0, h.lower_msgIdField]
  have hM : ((msg.fields.drop 1).enumFrom 1).dropWhile (fun p => isHeaderField h p.2.name) = M := by
    simp only [M, k, fieldLoop_msgType]
    exact dropWhile_header_headerLength h msg.fields
  refine ⟨?_, dropWhile_header_of_getElem? h, generateMessage_struct_block h ctx msg⟩
  rw [fieldLoop_out, enum_filter_internal h hfs hf0 (by simpa [hfs] using hrest), hM]

theorem generateMessage_header_members_request :
    let msg : Message := ⟨"m", "", [⟨"_vl_msg_id", "u16", 0, "", 0⟩,
      ⟨"client_index", "u32", 0, "", 0⟩, ⟨"context", "u32", 0, "", 0⟩, ⟨"count", "u32", 0, "", 0⟩]⟩
    let ctx := commentContext ""
    msg.fields[0]?.map Field.name = some Helpers.vpp.msgIdField ∧
      (∀ f ∈ msg.fields.tail, isInternalField Helpers.vpp f.name = false) ∧
      (fieldLoop Helpers.vpp ctx msg).out = ["\n", "\tCount uint32", "\n"] :=
  by
  intro msg ctx
  exact ⟨rfl, by decide,
    (generateMessage_header_members Helpers.vpp ctx msg rfl (by decide)).1.trans (by decide)⟩

/-- A reply whose context is followed by a client index: the client index is skipped as
well, so the members are not the fields after the reply's header. -/
theorem generateMessage_reply_skips_client_index :
    let msg : Message := ⟨"m", "", [⟨"_vl_msg_id", "u16", 0, "", 0⟩,
      ⟨"context", "u32", 0, "", 0⟩, ⟨"client_index", "u32", 0, "", 0⟩, ⟨"x", "u32", 0, "", 0⟩]⟩
    let s := fieldLoop Helpers.vpp (commentContext "") msg
    s.msgType = .replyMessage ∧ headerLength s.msgType = 2 ∧
      s.out = ["\n", "\tX uint32", "\n"] ∧
      s.out ≠ "\n" :: ([2, 3].flatMap fun i => generateField Helpers.vpp (commentContext "") msg.fields i) := by
  decide

/-- The role `generateMessage` writes through `generateMessageTypeGetter` depends only on the
names of the fields at positions 1 and 2, by the table of request, event, reply and other. -/
theorem generateMessage_role (h : Helpers) (ctx : Context) (msg : Message) :
    let t := (fieldLoop h ctx msg).msgType
    let n1 := msg.fields[1]?.map Field.name
    let n2 := msg.fields[2]?.map Field.name
    (t = .requestMessage ↔ n1 = some h.clientIndexField ∧ n2 = some h.contextField) ∧
    (t = .eventMessage ↔ n1 = some h.clientIndexField ∧ n2 ≠ some h.contextField) ∧
    (t = .replyMessage ↔ n1 = some h.contextField) ∧
    (t = .otherMessage ↔ n1 ≠ some h.clientIndexField ∧ n1 ≠ some h.contextField) ∧
    List.IsInfix (generateMessageTypeGetter (h.camelCaseName msg.name) t)
      (generateMessage h ctx msg) := by
  intro t n1 n2
  obtain ⟨h1, h2, h3, h4⟩ := roleOf_spec h n1 n2
  rw [← fieldLoop_msgType h ctx msg] at h1 h2 h3 h4
  exact ⟨h1, h2, h3, h4, generateMessage_typeGetter_block h ctx msg⟩

/-- Two arrays sized by one count field: the count is tagged with the size of the last one
only, and never with the first. -/
theorem generateType_shared_count :
    let a : Field := ⟨"a", "u32", 0, "c", 0⟩
    let c : Field := ⟨"c", "u32", 0, "", 0⟩
    let typ : Typ := ⟨"t", "", [a, ⟨"b", "u32", 0, "c", 0⟩, c]⟩
    a.sizeFrom = c.name ∧ c.length = 0 ∧ fieldIdent Helpers.vpp a = "A" ∧
      generateField Helpers.vpp (commentContext "") typ.fields 2 ⊆
        generateType Helpers.vpp (commentContext "") typ ∧
      generateField Helpers.vpp (commentContext "") typ.fields 2 =
        ["\tC uint32", "\t`", "struc:\"sizeof=B\"", "`", "\n"] ∧
      "struc:\"sizeof=A\"" ∉ generateType Helpers.vpp (commentContext "") typ := by
  decide

theorem generateStringGetter_eq (pt : PrintTable) (structName method value : String) :
    generateStringGetter pt structName method value =
      ["func (*" ++ structName ++ ") " ++ method ++ "() string \x7b\n\treturn " ++
        quote pt value ++ "\n\x7d\n"] := rfl

/-- The name and CRC getters of every generated message, and the name getter of every
generated record, return `%q` literals that Go reads back as the object's VPP name and its
CRC without the `0x` prefix, whatever runes these hold. -/
theorem generateGetters_unquote (h : Helpers) (ctx : Context) (msg : Message) (typ : Typ) :
    (∃ lit, ("func (*" ++ h.camelCaseName msg.name ++ ") GetMessageName() string \x7b\n\treturn " ++
        lit ++ "\n\x7d\n") ∈ generateMessage h ctx msg ∧ unquote lit = some msg.name) ∧
      (∃ lit, ("func (*" ++ h.camelCaseName msg.name ++ ") GetCrcString() string \x7b\n\treturn " ++
        lit ++ "\n\x7d\n") ∈ generateMessage h ctx msg ∧
        unquote lit = some (trimPrefix msg.crc "0x")) ∧
      ∃ lit, ("func (*" ++ h.camelCaseName typ.name ++ ") GetTypeName() string \x7b\n\treturn " ++
        lit ++ "\n\x7d\n") ∈ generateType h ctx typ ∧ unquote lit = some typ.name := by
  have e (s m v : String) : "func (*" ++ s ++ ") " ++ m ++ "() string \x7b\n\treturn " ++ v ++
      "\n\x7d\n" = "func (*" ++ s ++ (") " ++ m ++ "() string \x7b\n\treturn ") ++ v ++
      "\n\x7d\n" := by simp only [String.append_assoc]
  refine ⟨⟨_, ?_, unquote_quote h.printTable _⟩, ⟨_, ?_, unquote_quote h.printTable _⟩,
    ⟨_, ?_, unquote_quote h.printTable _⟩⟩ <;>
  simp [generateMessage, generateType, generateMessageNameGetter, generateCrcGetter,
    generateTypeNameGetter, generateStringGetter_eq, e]

end BinapiGenerator
