import BinapiGenerator.Comment
import Mathlib.Data.List.Nodup
import Mathlib.Algebra.Group.Int

/-! `generateEnum`: a Go integer type with one constant per entry, the maps `<Enum>_name`
and `<Enum>_value`, and a `String` method that falls back to the decimal value. The
meaning of the map literal and of `String` is given on the entries. -/

namespace BinapiGenerator

def nameMap (enum : Enum) : List (Int × String) := enum.entries.map fun e => (e.value, e.name)

def generateEnum (h : Helpers) (ctx : Context) (enum : Enum) : List String :=
  let name := h.camelCaseName enum.name
  let typ := h.binapiTypes enum.type
  generateComment ctx name enum.name "enum" ++
    ["type " ++ name ++ " " ++ typ ++ "\n", "\n", "const (\n"] ++
    enum.entries.map (fun e => "\t" ++ e.name ++ " " ++ name ++ " = " ++ toString e.value ++ "\n") ++
    [")\n", "\n", "var " ++ name ++ "_name = map[" ++ typ ++ "]string\x7b\n"] ++
    (nameMap enum).map (fun kv => "\t" ++ toString kv.1 ++ ": \"" ++ kv.2 ++ "\",\n") ++
    ["\x7d\n", "\n", "var " ++ name ++ "_value = map[string]" ++ typ ++ "\x7b\n"] ++
    enum.entries.map (fun e => "\t\"" ++ e.name ++ "\": " ++ toString e.value ++ ",\n") ++
    ["\x7d\n", "\n", "func (x " ++ name ++ ") String() string \x7b\n",
      "\ts, ok := " ++ name ++ "_name[" ++ typ ++ "(x)]\n", "\tif ok \x7b return s \x7d\n",
      "\treturn strconv.Itoa(int(x))\n", "\x7d\n", "\n"]

inductive GoInt
  | uint8 | uint16 | uint32 | uint64 | int8 | int16 | int32 | int64
deriving Repr, DecidableEq

def GoInt.ofName : String → Option GoInt
  | "uint8" => some .uint8
  | "uint16" => some .uint16
  | "uint32" => some .uint32
  | "uint64" => some .uint64
  | "int8" => some .int8
  | "int16" => some .int16
  | "int32" => some .int32
  | "int64" => some .int64
  | _ => none

/-- Go's conversion `int(x)` of a value of type `t`, `int` being 64 bits wide. -/
def GoInt.toInt (t : GoInt) (x : Int) : Int := if t = .uint64 ∧ 2 ^ 63 ≤ x then x - 2 ^ 64 else x

/-- Go compiles a map literal only when its constant keys are distinct. -/
def MapLiteralWellFormed (kvs : List (Int × String)) : Prop := (kvs.map Prod.fst).Nodup

instance : DecidablePred MapLiteralWellFormed :=
  fun kvs => inferInstanceAs (Decidable (kvs.map Prod.fst).Nodup)

/-- Both map literals of a generated enum compile: the keys of `_name`, the entries' values,
are distinct, and so are the keys of `_value`, the entries' names. -/
def EnumMapsCompile (enum : Enum) : Prop :=
  MapLiteralWellFormed (nameMap enum) ∧ (enum.entries.map EnumEntry.name).Nodup

instance : DecidablePred EnumMapsCompile := fun _ => inferInstanceAs (Decidable (_ ∧ _))

def enumString (enum : Enum) (t : GoInt) (x : Int) : String :=
  match (nameMap enum).lookup x with
  | some s => s
  | none => toString (t.toInt x)

theorem lookup_nameMap (enum : Enum) (x : Int) :
    (nameMap enum).lookup x = (enum.entries.find? (fun e => e.value == x)).map EnumEntry.name := by
  obtain ⟨name, type, entries⟩ := enum
  induction entries with
  | nil => rfl
  | cons e rest ih =>
    simp only [nameMap, List.map_cons, List.lookup_cons, List.find?_cons] at ih ⊢
    by_cases he : e.value = x
    · simp [he]
    · have h1 : (x == e.value) = false := by simpa using Ne.symm he
      have h2 : (e.value == x) = false := by simpa using he
      simp [h1, h2, ih]

/-- An enum with two entries of one value: the `_name` map literal repeats the key, which Go
rejects; and a `uint64` value past `2 ^ 63` is rendered as a negative numeral. -/
theorem generateEnum_duplicate_key :
    ¬ MapLiteralWellFormed (nameMap ⟨"e", "u32", [⟨"A", 1⟩, ⟨"B", 1⟩]⟩) ∧
      List.Sublist ["\t1: \"A\",\n", "\t1: \"B\",\n"]
        (generateEnum Helpers.vpp (commentContext "") ⟨"e", "u32", [⟨"A", 1⟩, ⟨"B", 1⟩]⟩) ∧
      enumString ⟨"e", "u64", [⟨"A", 1⟩]⟩ .uint64 (2 ^ 64 - 1) = "-1" := by
  decide

end BinapiGenerator
