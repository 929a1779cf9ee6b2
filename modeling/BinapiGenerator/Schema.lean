import BinapiGenerator.Strings

/-! The parsed VPP API package the generator reads, the generator's `context`, and the
helpers it calls from the generator's other files, which are parameters here. -/

namespace BinapiGenerator

/-- A field of a type, union or message; `limit` is its `Meta.Limit`. -/
structure Field where
  name : String
  type : String
  length : Nat
  sizeFrom : String
  limit : Nat
deriving Repr, DecidableEq, Inhabited

structure EnumEntry where
  name : String
  value : Int
deriving Repr, DecidableEq

structure Enum where
  name : String
  type : String
  entries : List EnumEntry
deriving Repr, DecidableEq

structure Alias where
  name : String
  type : String
  length : Nat
deriving Repr, DecidableEq

/-- A record, `Type` of the parser module. -/
structure Typ where
  name : String
  crc : String
  fields : List Field
deriving Repr, DecidableEq

structure Union where
  name : String
  crc : String
  fields : List Field
deriving Repr, DecidableEq

structure Message where
  name : String
  crc : String
  fields : List Field
deriving Repr, DecidableEq

structure Service where
  requestType : String
  replyType : String
  stream : Bool
deriving Repr, DecidableEq

structure Package where
  version : String
  crc : String
  enums : List Enum
  aliases : List Alias
  types : List Typ
  unions : List Union
  messages : List Message
  services : List Service
deriving Repr, DecidableEq

inductive MessageType
  | requestMessage
  | replyMessage
  | eventMessage
  | otherMessage
deriving Repr, DecidableEq

structure Context where
  inputFile : String
  outputFile : String
  inputData : String
  includeAPIVersion : Bool
  includeComments : Bool
  includeBinapiNames : Bool
  includeServices : Bool
  moduleName : String
  packageName : String
  packageData : Package
deriving Repr, DecidableEq

def generatedCodeVersion : Nat := 1
def inputFileExt : String := ".api.json"
def outputFileExt : String := ".ba.go"
def govppApiImportPath : String := "git.fd.io/govpp.git/api"
def constModuleName : String := "ModuleName"
def constAPIVersion : String := "APIVersion"
def constVersionCrc : String := "VersionCrc"
def unionDataField : String := "XXX_UnionData"

/-- What `generate.go` calls from the generator's other files, for the package being
generated, and the tables of `strings.ToLower` and `unicode.IsPrint`. `camelCaseName` drops
an underscore, as the spec's "no separators" asks; the reserved field names are lower case,
and the two header names differ from each other and from the internal ones. -/
structure Helpers where
  camelCaseName : String → String
  convertToGoType : String → String
  getUnionSize : Union → Nat
  binapiTypes : String → String
  toLower : String → String
  printTable : Go.PrintTable
  crcField : String
  msgIdField : String
  clientIndexField : String
  contextField : String
  lower_msgIdField : toLower msgIdField = msgIdField
  lower_clientIndexField : toLower clientIndexField = clientIndexField
  lower_contextField : toLower contextField = contextField
  clientIndexField_ne_contextField : clientIndexField ≠ contextField
  clientIndexField_not_internal : clientIndexField ≠ crcField ∧ clientIndexField ≠ msgIdField
  contextField_not_internal : contextField ≠ crcField ∧ contextField ≠ msgIdField
  camelCaseName_underscore : ∀ s, camelCaseName ("_" ++ s) = camelCaseName s

/-- Modelled from the spec, as are the tables and sizes below, which `generate.go` takes from
the generator's other files: `camelCaseName` "converts underscore/lowercase schema names to
the host language's exported-identifier convention (leading uppercase, no separators)". -/
def camelCaseName (name : String) : String := ⟨go true name.data⟩
where
  go : Bool → List Char → List Char
    | _, [] => []
    | _, '_' :: cs => go true cs
    | up, c :: cs => (if up then c.toUpper else c) :: go false cs

def binapiTypes : String → String
  | "bool" => "bool"
  | "u8" => "uint8"
  | "i8" => "int8"
  | "u16" => "uint16"
  | "i16" => "int16"
  | "u32" => "uint32"
  | "i32" => "int32"
  | "u64" => "uint64"
  | "i64" => "int64"
  | "f64" => "float64"
  | _ => ""

def convertToGoType (t : String) : String :=
  if binapiTypes t ≠ "" then binapiTypes t else if t = "string" then t else camelCaseName t

def scalarSize (f : Field) : Nat :=
  max 1 f.length * match f.type with
    | "u16" | "i16" => 2
    | "u32" | "i32" => 4
    | "u64" | "i64" | "f64" => 8
    | _ => 1

/-- Modelled from the spec: `getUnionSize` outside `generate.go`, "the maximum, over all
of the union's fields, of that field's encoded size". -/
def getUnionSize (u : Union) : Nat := u.fields.foldr (fun f m => max (scalarSize f) m) 0

def commentContext (inputData : String) : Context :=
  ⟨"m.api.json", "m/m.ba.go", inputData, false, true, false, false, "m", "m",
    ⟨"", "", [], [], [], [], [], []⟩⟩

def asciiToLower (s : String) : String := ⟨s.data.map Char.toLower⟩

def asciiPrintTable : Go.PrintTable where
  isPrint c := 0x20 ≤ c.toNat && c.toNat < 0x7F
  isPrint_ascii c h1 h2 := by simp [h1, h2]
  isPrint_control c h := by rcases h with h | h <;> simp <;> omega

/-- The generator with the helpers above, the VPP reserved field names, and ASCII
lower-casing and printing. -/
def Helpers.vpp : Helpers where
  camelCaseName := BinapiGenerator.camelCaseName
  convertToGoType := BinapiGenerator.convertToGoType
  getUnionSize := BinapiGenerator.getUnionSize
  binapiTypes := BinapiGenerator.binapiTypes
  toLower := asciiToLower
  printTable := asciiPrintTable
  crcField := "crc"
  msgIdField := "_vl_msg_id"
  clientIndexField := "client_index"
  contextField := "context"
  lower_msgIdField := by decide
  lower_clientIndexField := by decide
  lower_contextField := by decide
  clientIndexField_ne_contextField := by decide
  clientIndexField_not_internal := by decide
  contextField_not_internal := by decide
  camelCaseName_underscore _ := rfl

end BinapiGenerator
