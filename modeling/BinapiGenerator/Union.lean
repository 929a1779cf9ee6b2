import BinapiGenerator.Comment
import BinapiGenerator.Field

/-! `generateUnion`: a union is one byte array, `XXX_UnionData`, as large as the union's
size, with a constructor, a setter and a getter for every member. The setter packs the
value with struc and copies the bytes over the start of the array; the getter unpacks the
whole array. The accessors' meaning is given on the array itself. -/

namespace BinapiGenerator

def generateUnionGetterSetter (structName getterField getterStruct : String) : List String :=
  let s := structName
  let f := getterField
  let t := getterStruct
  ["\nfunc " ++ s ++ f ++ "(a " ++ t ++ ") (u " ++ s ++ ") \x7b\n\tu.Set" ++ f ++
    "(a)\n\treturn\n\x7d\nfunc (u *" ++ s ++ ") Set" ++ f ++ "(a " ++ t ++
    ") \x7b\n\tvar b = new(bytes.Buffer)\n\tif err := struc.Pack(b, &a); err != nil \x7b\n" ++
    "\t\treturn\n\t\x7d\n\tcopy(u." ++ unionDataField ++ "[:], b.Bytes())\n\x7d\nfunc (u *" ++
    s ++ ") Get" ++ f ++ "() (a " ++ t ++ ") \x7b\n\tvar b = bytes.NewReader(u." ++
    unionDataField ++ "[:])\n\tstruc.Unpack(b, &a)\n\treturn\n\x7d\n"]

def unionDataDecl (size : Nat) : String :=
  "\t" ++ unionDataField ++ " [" ++ toString size ++ "]byte\n"

def generateUnion (h : Helpers) (ctx : Context) (union : Union) : List String :=
  let name := h.camelCaseName union.name
  generateComment ctx name union.name "union" ++ ["type " ++ name ++ " struct \x7b\n"] ++
    [unionDataDecl (h.getUnionSize union)] ++ ["\x7d\n"] ++
    generateTypeNameGetter h.printTable name union.name ++
    (if union.crc ≠ "" then generateCrcGetter h.printTable name union.crc else []) ++
    union.fields.flatMap (fun field =>
      generateUnionGetterSetter name (h.camelCaseName field.name)
        (h.convertToGoType field.type)) ++ ["\n"]

/-- What `struc.Pack` and `struc.Unpack` do on one Go type: packing may fail, and the
getter keeps whatever unpacking produced, error or not. -/
structure StrucCodec (α : Type) where
  pack : α → Option (List UInt8)
  unpack : List UInt8 → α

def StrucCodec.FixedWidth {α : Type} (c : StrucCodec α) (w : Nat) : Prop :=
  ∀ a, ∃ b, c.pack a = some b ∧ b.length = w

def StrucCodec.UnpacksPrefix {α : Type} (c : StrucCodec α) : Prop :=
  ∀ a b rest, c.pack a = some b → c.unpack (b ++ rest) = a

/-- The `XXX_UnionData [size]byte` array of a union value. Its `set`, `get` and `make` below
are the generated `Set<Member>`, `Get<Member>` and constructor `<Union><Member>`. -/
structure UnionData (size : Nat) where
  bytes : List UInt8
  length_bytes : bytes.length = size

/-- Go's `copy(dst, src)`: the first `min (len dst) (len src)` bytes of `dst` become those
of `src`. -/
def goCopy (dst src : List UInt8) : List UInt8 := src.take dst.length ++ dst.drop src.length

@[simp] theorem length_goCopy (dst src : List UInt8) : (goCopy dst src).length = dst.length := by
  simp only [goCopy, List.length_append, List.length_take, List.length_drop]
  omega

theorem goCopy_of_le {dst src : List UInt8} (h : src.length ≤ dst.length) :
    goCopy dst src = src ++ dst.drop src.length := by
  simp [goCopy, List.take_of_length_le h]

namespace UnionData

variable {α : Type} {n : Nat}

/-- The generated `Set<Member>`. -/
def set (c : StrucCodec α) (u : UnionData n) (a : α) : UnionData n :=
  match c.pack a with
  | none => u
  | some b => ⟨goCopy u.bytes b, by rw [length_goCopy, u.length_bytes]⟩

def get (c : StrucCodec α) (u : UnionData n) : α := c.unpack u.bytes

def zero (n : Nat) : UnionData n := ⟨List.replicate n 0, by simp⟩

def make (c : StrucCodec α) (a : α) : UnionData n := (zero n).set c a

theorem set_bytes (c : StrucCodec α) (u : UnionData n) {a : α} {b : List UInt8}
    (hp : c.pack a = some b) (hb : b.length ≤ n) :
    (u.set c a).bytes = b ++ u.bytes.drop b.length := by
  simp only [set, hp]
  exact goCopy_of_le (by rw [u.length_bytes]; exact hb)

theorem get_set_of_pack (c : StrucCodec α) (hc : c.UnpacksPrefix) (u : UnionData n) {a : α}
    {b : List UInt8} (hp : c.pack a = some b) (hb : b.length ≤ n) : (u.set c a).get c = a := by
  rw [get, set_bytes c u hp hb]
  exact hc a b _ hp

end UnionData

/-- For a member `F` of a union `U` whose Go type packs every value into at most the size of
`XXX_UnionData`, `generateUnion` declares the array with that size and writes for `F` the
constructor, the setter that packs and copies, and the getter that unpacks; and that getter
returns what that setter stored, from any earlier content of the array. -/
theorem generateUnion_get_set {α : Type} (h : Helpers) (ctx : Context) (U : Union) {F : Field}
    (hF : F ∈ U.fields) (c : StrucCodec α) {w : Nat} (hw : c.FixedWidth w)
    (hle : w ≤ h.getUnionSize U) (hc : c.UnpacksPrefix) :
    ("\t" ++ unionDataField ++ " [" ++ toString (h.getUnionSize U) ++ "]byte\n") ∈
        generateUnion h ctx U ∧
      ("\nfunc " ++ h.camelCaseName U.name ++ h.camelCaseName F.name ++ "(a " ++
        h.convertToGoType F.type ++ ") (u " ++ h.camelCaseName U.name ++ ") \x7b\n\tu.Set" ++
        h.camelCaseName F.name ++ "(a)\n\treturn\n\x7d\nfunc (u *" ++ h.camelCaseName U.name ++
        ") Set" ++ h.camelCaseName F.name ++ "(a " ++ h.convertToGoType F.type ++
        ") \x7b\n\tvar b = new(bytes.Buffer)\n\tif err := struc.Pack(b, &a); err != nil \x7b\n" ++
        "\t\treturn\n\t\x7d\n\tcopy(u." ++ unionDataField ++ "[:], b.Bytes())\n\x7d\nfunc (u *" ++
        h.camelCaseName U.name ++ ") Get" ++ h.camelCaseName F.name ++ "() (a " ++
        h.convertToGoType F.type ++ ") \x7b\n\tvar b = bytes.NewReader(u." ++ unionDataField ++
        "[:])\n\tstruc.Unpack(b, &a)\n\treturn\n\x7d\n") ∈ generateUnion h ctx U ∧
      ∀ (u : UnionData (h.getUnionSize U)) (a : α), (u.set c a).get c = a := by
  refine ⟨by simp [generateUnion, unionDataDecl], ?_, fun u a => ?_⟩
  · simp only [generateUnion, List.mem_append, List.mem_flatMap]
    exact Or.inl (Or.inr ⟨F, hF, List.mem_singleton_self _⟩)
  · obtain ⟨b, hp, hb⟩ := hw a
    exact u.get_set_of_pack c hc hp (hb ▸ hle)

def uint8Codec : StrucCodec UInt8 := ⟨fun a => some [a], fun b => b.headD 0⟩

theorem generateUnion_get_set_uint8 :
    let U : Union := ⟨"u", "", [⟨"a", "u8", 0, "", 0⟩, ⟨"b", "u32", 0, "", 0⟩]⟩
    ⟨"a", "u8", 0, "", 0⟩ ∈ U.fields ∧ uint8Codec.FixedWidth 1 ∧
      1 ≤ Helpers.vpp.getUnionSize U ∧ uint8Codec.UnpacksPrefix ∧
      ∀ (u : UnionData (Helpers.vpp.getUnionSize U)) (a : UInt8),
        (u.set uint8Codec a).get uint8Codec = a := by
  intro U
  have hw : uint8Codec.FixedWidth 1 := fun a => ⟨[a], rfl, rfl⟩
  have hc : uint8Codec.UnpacksPrefix := by
    intro a b rest hp
    cases hp
    rfl
  exact ⟨by decide, hw, by decide, hc,
    (@generateUnion_get_set UInt8 Helpers.vpp (commentContext "") U ⟨"a", "u8", 0, "", 0⟩
      (by decide) uint8Codec 1 hw (by decide) hc).2.2⟩

end BinapiGenerator
