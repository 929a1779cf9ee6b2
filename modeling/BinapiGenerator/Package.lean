import BinapiGenerator.Message
import BinapiGenerator.Union
import BinapiGenerator.Enum
import BinapiGenerator.Service

/-! `getContext` and `generatePackage`: the file header and imports, the module constants,
then the enums, aliases, types, unions and messages of the package in that order, the
message registrations, and the services. -/

namespace BinapiGenerator

open Go

def base (path : String) : String :=
  if path = "" then "."
  else
    let p := path.data.reverse.dropWhile (· = '/')
    if p = [] then "/" else ⟨(p.takeWhile (· ≠ '/')).reverse⟩

/-- `getContext`, with `filepath.Join` and the printable runes of `%q` as parameters. The
result is `none` where the Go code would panic on a slice bound. -/
def getContext (join : String → String → String) (pt : PrintTable) (inputFile outputDir : String) :
    Option (Except String Context) :=
  if !hasSuffix inputFile inputFileExt then
    some (.error ("invalid input file name: " ++ quote pt inputFile))
  else
    let inputFileName := base inputFile
    let dot := index inputFileName "."
    if dot < 0 then none
    else
      let moduleName := sliceTo inputFileName dot
      let packageName :=
        if moduleName = "interface" then "interfaces"
        else if moduleName = "map" then "maps" else moduleName
      some (.ok ⟨inputFile, join (join outputDir packageName) (packageName ++ outputFileExt), "",
        false, false, false, false, moduleName, packageName,
        ⟨"", "", [], [], [], [], [], []⟩⟩)

theorem base_suffix {path : String} {suf : List Char} (hne : suf ≠ []) (hsl : '/' ∉ suf)
    (hp : List.IsSuffix suf path.data) : List.IsSuffix suf (base path).data := by
  obtain ⟨pre, hpre⟩ := hp
  have hpath : path ≠ "" := by
    rintro rfl
    exact hne (List.append_eq_nil.mp hpre).2
  obtain ⟨y, ys, hy⟩ : ∃ y ys, suf.reverse = y :: ys :=
    List.exists_cons_of_ne_nil (by simpa using hne)
  have hy' : y ≠ '/' := fun e => hsl (List.mem_reverse.mp (by simp [hy, e]))
  have hd : path.data.reverse.dropWhile (· = '/') = suf.reverse ++ pre.reverse := by
    rw [← hpre, List.reverse_append, hy, List.cons_append,
      List.dropWhile_cons_of_neg (by simpa using hy')]
  have ht : (suf.reverse ++ pre.reverse).takeWhile (· ≠ '/') =
      suf.reverse ++ pre.reverse.takeWhile (· ≠ '/') :=
    List.takeWhile_append_of_pos fun a ha => by
      have ha' : a ≠ '/' := fun e => hsl (e ▸ List.mem_reverse.mp ha)
      simpa using ha'
  refine ⟨(pre.reverse.takeWhile (· ≠ '/')).reverse, ?_⟩
  simp only [base, if_neg hpath, hd, ht, List.append_eq_nil, List.reverse_eq_nil_iff, hne,
    and_false, false_and, if_false, List.reverse_append, List.reverse_reverse]

/-- `getContext` never panics. It fails exactly on an input file without the `.api.json`
extension; otherwise the module name is the base name up to its first `.`, and the output
file is named after the package and placed in a directory of the same name. -/
theorem getContext_spec (join : String → String → String) (pt : PrintTable)
    (inputFile outputDir : String) :
    match getContext join pt inputFile outputDir with
    | none => False
    | some (.error e) => hasSuffix inputFile inputFileExt = false ∧
        e = "invalid input file name: " ++ quote pt inputFile
    | some (.ok ctx) => hasSuffix inputFile inputFileExt = true ∧ ctx.inputFile = inputFile ∧
        '.' ∉ ctx.moduleName.data ∧
        List.IsPrefix (ctx.moduleName.data ++ ['.']) (base inputFile).data ∧
        ctx.packageName = (if ctx.moduleName = "interface" then "interfaces"
          else if ctx.moduleName = "map" then "maps" else ctx.moduleName) ∧
        ctx.outputFile = join (join outputDir ctx.packageName) (ctx.packageName ++ outputFileExt) := by
  by_cases hs : hasSuffix inputFile inputFileExt = true
  · have hdot : '.' ∈ (base inputFile).data :=
      (base_suffix (by decide) (by decide) (List.isSuffixOf_iff_suffix.mp hs)).mem (by decide)
    obtain ⟨hidx, hslice⟩ := index_singleton (t := ".") rfl hdot
    have hpos : ¬ index (base inputFile) "." < 0 := by rw [hidx]; omega
    simp only [getContext, hs, Bool.not_true, Bool.false_eq_true, if_false, hpos, hslice]
    exact ⟨trivial, trivial, fun hm => by simpa using List.mem_takeWhile_imp hm,
      takeWhile_ne_prefix hdot, trivial, trivial⟩
  · simp [getContext, hs]

theorem getContext_ok_packageName {join : String → String → String} {pt : PrintTable}
    {inputFile outputDir : String} {ctx : Context}
    (h : getContext join pt inputFile outputDir = some (.ok ctx)) :
    ctx.packageName = if ctx.moduleName = "interface" then "interfaces"
      else if ctx.moduleName = "map" then "maps" else ctx.moduleName := by
  unfold getContext at h
  dsimp only at h
  split at h
  · cases h
  · split at h
    · cases h
    · cases h
      rfl

theorem packageName_eq_iff (m1 m2 : String) :
    (if m1 = "interface" then "interfaces" else if m1 = "map" then "maps" else m1) =
        (if m2 = "interface" then "interfaces" else if m2 = "map" then "maps" else m2) ↔
      m1 = m2 ∨ (m1, m2) ∈ [("interface", "interfaces"), ("interfaces", "interface"),
        ("map", "maps"), ("maps", "map")] := by
  by_cases h1 : m1 = "interface" <;> by_cases h1' : m1 = "map" <;>
    by_cases h2 : m2 = "interface" <;> by_cases h2' : m2 = "map" <;> simp_all [eq_comm]

/-- Two input files share a package name, and so a package directory under one output
directory, exactly when their module names are equal or are `interface` and `interfaces`, or
`map` and `maps`, in either order. -/
theorem getContext_packageName_collision {join : String → String → String} {pt : PrintTable}
    {file1 dir1 file2 dir2 : String} {c1 c2 : Context}
    (h1 : getContext join pt file1 dir1 = some (.ok c1))
    (h2 : getContext join pt file2 dir2 = some (.ok c2)) :
    c1.packageName = c2.packageName ↔ c1.moduleName = c2.moduleName ∨
      (c1.moduleName, c2.moduleName) ∈ [("interface", "interfaces"), ("interfaces", "interface"),
        ("map", "maps"), ("maps", "map")] := by
  rw [getContext_ok_packageName h1, getContext_ok_packageName h2]
  exact packageName_eq_iff _ _

theorem getContext_packageName_collision_interface :
    ∃ c1 c2, getContext (fun d f => d ++ "/" ++ f) asciiPrintTable "api/interface.api.json" "out" =
        some (.ok c1) ∧
      getContext (fun d f => d ++ "/" ++ f) asciiPrintTable "api/interfaces.api.json" "out" =
        some (.ok c2) ∧
      (c1.packageName = c2.packageName ↔ c1.moduleName = c2.moduleName ∨
        (c1.moduleName, c2.moduleName) ∈ [("interface", "interfaces"), ("interfaces", "interface"),
          ("map", "maps"), ("maps", "map")]) := by
  obtain ⟨c1, h1⟩ : ∃ c, getContext (fun d f => d ++ "/" ++ f) asciiPrintTable
      "api/interface.api.json" "out" = some (.ok c) := ⟨_, rfl⟩
  obtain ⟨c2, h2⟩ : ∃ c, getContext (fun d f => d ++ "/" ++ f) asciiPrintTable
      "api/interfaces.api.json" "out" = some (.ok c) := ⟨_, rfl⟩
  exact ⟨c1, c2, h1, h2, getContext_packageName_collision h1 h2⟩

def printObjNum (obj : String) (num : Nat) : List String :=
  if num > 0 then
    let obj := if num > 1 then (if hasSuffix obj "s" then obj ++ "es" else obj ++ "s") else obj
    ["\t" ++ padInt3 num ++ " " ++ obj ++ "\n"]
  else []

def generateHeader (ctx : Context) : List String :=
  let pkg := ctx.packageData
  ["// Code generated by GoVPP binapi-generator. DO NOT EDIT.\n",
    "// source: " ++ ctx.inputFile ++ "\n", "\n", "/*\n",
    "Package " ++ ctx.packageName ++ " is a generated from VPP binary API module \x27" ++
      ctx.moduleName ++ "\x27.\n", "\n",
    " The " ++ ctx.moduleName ++ " module consists of:\n"] ++
    printObjNum "enum" pkg.enums.length ++ printObjNum "alias" pkg.aliases.length ++
    printObjNum "type" pkg.types.length ++ printObjNum "union" pkg.unions.length ++
    printObjNum "message" pkg.messages.length ++ printObjNum "service" pkg.services.length ++
    ["*/\n", "package " ++ ctx.packageName ++ "\n", "\n"]

def generateImports : List String :=
  ["import api \"" ++ govppApiImportPath ++ "\"\n", "import bytes \"bytes\"\n",
    "import context \"context\"\n", "import strconv \"strconv\"\n",
    "import struc \"github.com/lunixbochs/struc\"\n", "\n",
    "// Reference imports to suppress errors if they are not otherwise used.\n",
    "var _ = api.RegisterMessage\n", "var _ = bytes.NewBuffer\n", "var _ = context.Background\n",
    "var _ = strconv.Itoa\n", "var _ = struc.Pack\n", "\n",
    "// This is a compile-time assertion to ensure that this generated file\n",
    "// is compatible with the GoVPP api package it is being compiled against.\n",
    "// A compilation error at this line likely means your copy of the\n",
    "// GoVPP api package needs to be updated.\n",
    "const _ = api.GoVppAPIPackageIsVersion" ++ toString generatedCodeVersion ++
      " // please upgrade the GoVPP api package\n", "\n"]

def generateAlias (h : Helpers) (ctx : Context) (a : Alias) : List String :=
  let name := h.camelCaseName a.name
  generateComment ctx name a.name "alias" ++ ["type " ++ name ++ " "] ++
    (if a.length > 0 then ["[" ++ toString a.length ++ "]"] else []) ++
    [h.convertToGoType a.type ++ "\n", "\n"]

def generateRegistrations (h : Helpers) (ctx : Context) (messages : List Message) :
    List String :=
  ["func init() \x7b\n"] ++
    messages.map (fun msg => "\tapi.RegisterMessage((*" ++ h.camelCaseName msg.name ++
      ")(nil), \"" ++ ctx.moduleName ++ "." ++ h.camelCaseName msg.name ++ "\")\n") ++
    ["\x7d\n", "\n", "// Messages returns list of all messages in this module.\n",
      "func AllMessages() []api.Message \x7b\n", "\treturn []api.Message\x7b\n"] ++
    messages.map (fun msg => "\t(*" ++ h.camelCaseName msg.name ++ ")(nil),\n") ++
    ["\x7d\n", "\x7d\n"]

def generateSection {α : Type} (title : String) (objs : List α) (gen : α → List String) :
    List String :=
  if objs.length > 0 then ("/* " ++ title ++ " */\n\n") :: objs.flatMap gen else []

def generatePackage (h : Helpers) (ctx : Context) : List String :=
  let pkg := ctx.packageData
  generateHeader ctx ++ generateImports ++
    ["const (\n", "\t// " ++ constModuleName ++ " is the name of this module.\n",
      "\t" ++ constModuleName ++ " = \"" ++ ctx.moduleName ++ "\"\n"] ++
    (if ctx.includeAPIVersion then
      (if pkg.version ≠ "" then
        ["\t// " ++ constAPIVersion ++ " is the API version of this module.\n",
          "\t" ++ constAPIVersion ++ " = \"" ++ pkg.version ++ "\"\n"]
      else []) ++
      ["\t// " ++ constVersionCrc ++ " is the CRC of this module.\n",
        "\t" ++ constVersionCrc ++ " = " ++ pkg.crc ++ "\n"]
    else []) ++ [")\n", "\n"] ++
    generateSection "Enums" pkg.enums (generateEnum h ctx) ++
    generateSection "Aliases" pkg.aliases (generateAlias h ctx) ++
    generateSection "Types" pkg.types (generateType h ctx) ++
    generateSection "Unions" pkg.unions (generateUnion h ctx) ++
    (if pkg.messages.length > 0 then
      generateSection "Messages" pkg.messages (generateMessage h ctx) ++
        generateRegistrations h ctx pkg.messages
    else []) ++
    (if ctx.includeServices ∧ pkg.services.length > 0 then generateServices h ctx pkg.services else [])

theorem messages_infix_generatePackage (h : Helpers) (ctx : Context)
    (hpos : ctx.packageData.messages.length > 0) :
    List.IsInfix (generateSection "Messages" ctx.packageData.messages (generateMessage h ctx) ++
      generateRegistrations h ctx ctx.packageData.messages) (generatePackage h ctx) := by
  simp only [generatePackage, if_pos hpos]
  exact List.infix_append _ _ _

/-- Every message of the package is declared as a struct, then registered by `init` under its
name qualified by the module, then listed by `AllMessages`; and the body of `init` is the
registrations of the messages in their order. -/
theorem generatePackage_messages (h : Helpers) (ctx : Context) {msg : Message}
    (hm : msg ∈ ctx.packageData.messages) :
    List.Sublist ["type " ++ h.camelCaseName msg.name ++ " struct \x7b",
        "\tapi.RegisterMessage((*" ++ h.camelCaseName msg.name ++ ")(nil), \"" ++
          ctx.moduleName ++ "." ++ h.camelCaseName msg.name ++ "\")\n",
        "\t(*" ++ h.camelCaseName msg.name ++ ")(nil),\n"] (generatePackage h ctx) ∧
      List.IsInfix ("func init() \x7b\n" :: ctx.packageData.messages.map (fun m =>
          "\tapi.RegisterMessage((*" ++ h.camelCaseName m.name ++ ")(nil), \"" ++
            ctx.moduleName ++ "." ++ h.camelCaseName m.name ++ "\")\n") ++ ["\x7d\n"])
        (generatePackage h ctx) := by
  have hpos := List.length_pos_of_mem hm
  have hinf := messages_infix_generatePackage h ctx hpos
  have hs : ("type " ++ h.camelCaseName msg.name ++ " struct \x7b") ∈
      generateSection "Messages" ctx.packageData.messages (generateMessage h ctx) := by
    simp only [generateSection, if_pos hpos, List.mem_cons, List.mem_flatMap]
    exact Or.inr ⟨msg, hm, (generateMessage_struct_block h ctx msg).subset (List.mem_cons_self _ _)⟩
  have hre := (List.singleton_sublist.mpr (List.mem_append_right ["func init() \x7b\n"]
      (List.mem_map_of_mem (fun m => "\tapi.RegisterMessage((*" ++ h.camelCaseName m.name ++
        ")(nil), \"" ++ ctx.moduleName ++ "." ++ h.camelCaseName m.name ++ "\")\n") hm))).append
    (List.singleton_sublist.mpr (List.mem_append_left ["\x7d\n", "\x7d\n"]
      (List.mem_append_right ["\x7d\n", "\n", "// Messages returns list of all messages in this module.\n",
        "func AllMessages() []api.Message \x7b\n", "\treturn []api.Message\x7b\n"]
        (List.mem_map_of_mem (fun m => "\t(*" ++ h.camelCaseName m.name ++ ")(nil),\n") hm))))
  refine ⟨(List.Sublist.append (List.singleton_sublist.mpr hs) ?_).trans hinf.sublist,
    List.IsInfix.trans ?_ ((List.suffix_append _ _).isInfix.trans hinf)⟩
  · simpa only [generateRegistrations, List.append_assoc] using hre
  · refine List.IsPrefix.isInfix ?_
    simp only [generateRegistrations, List.append_assoc, List.singleton_append, List.cons_append,
      List.nil_append, List.cons_prefix_cons, List.prefix_append_right_inj, List.nil_prefix, true_and]

end BinapiGenerator
