import BinapiGenerator.Schema

/-! `generateComment`: the comment line of a generated object and, with `includeComments`,
the part of the JSON source that defines the object, found by one scan over its lines. -/

namespace BinapiGenerator

open Go

def isNotSpace (c : Char) : Bool := !isSpace c

def echoLine (trimIndent line : String) : String := "//\t" ++ trimPrefix line trimIndent

/-- The loop of `generateComment` from the state `objFound`, `indent`, `trimIndent`, over
the lines still to be read. -/
def scanSource (objTitle : String) (mapType : Bool) :
    Bool → Int → String → List String → List String
  | _, _, _, [] => []
  | objFound, indent, trimIndent, line :: rest =>
    let noSpaceAt := indexFunc line isNotSpace
    if !objFound then
      let indent := index line objTitle
      if indent = -1 then scanSource objTitle mapType objFound indent trimIndent rest
      else
        let trimIndent := sliceTo line indent
        if trimSpace line = objTitle then
          "//\n" :: echoLine trimIndent line ::
            scanSource objTitle mapType true indent trimIndent rest
        else echoLine trimIndent line :: scanSource objTitle mapType objFound indent trimIndent rest
    else if noSpaceAt < indent then []
    else if objFound && mapType && noSpaceAt ≤ indent then [echoLine trimIndent line]
    else echoLine trimIndent line :: scanSource objTitle mapType objFound indent trimIndent rest

def objTitle (vppName objKind : String) : String :=
  if objKind = "alias" ∨ objKind = "service" then "\"" ++ vppName ++ "\": \x7b"
  else "\"" ++ vppName ++ "\","

def commentHeader (ctx : Context) (goName vppName objKind : String) : String :=
  if objKind = "service" then
    "// " ++ goName ++ " represents VPP binary API services in " ++ ctx.moduleName ++ " module.\n"
  else "// " ++ goName ++ " represents VPP binary API " ++ objKind ++ " \x27" ++ vppName ++
    "\x27:\n"

def generateComment (ctx : Context) (goName vppName objKind : String) : List String :=
  if !ctx.includeComments then [commentHeader ctx goName vppName objKind]
  else
    let mapType := objKind = "alias" || objKind = "service"
    commentHeader ctx goName vppName objKind ::
      scanSource (objTitle vppName objKind) mapType false 0 ""
        (readLines [] ctx.inputData.data) ++ ["//\n"]

def preEcho (objTitle line : String) : Option String :=
  if index line objTitle = -1 then none
  else some (echoLine (sliceTo line (index line objTitle)) line)

/-- A line inside the object's definition after its header: its first non-space rune is
right of the header's indent, or at it for an array element. A blank line is inside
neither. -/
def continuesRun (mapType : Bool) (indent : Int) (line : String) : Bool :=
  if mapType then indent < indexFunc line isNotSpace else indent ≤ indexFunc line isNotSpace

def objectRun (mapType : Bool) (indent : Int) (lines : List String) : List String :=
  lines.takeWhile (continuesRun mapType indent) ++
    match lines.dropWhile (continuesRun mapType indent) with
    | line :: _ => if mapType ∧ indexFunc line isNotSpace = indent then [line] else []
    | [] => []

theorem objectRun_cons_of_continues {mapType : Bool} {indent : Int} {l : String}
    (rest : List String) (h : continuesRun mapType indent l = true) :
    objectRun mapType indent (l :: rest) = l :: objectRun mapType indent rest := by
  simp [objectRun, List.takeWhile_cons, List.dropWhile_cons, h]

theorem objectRun_cons_of_stop {mapType : Bool} {indent : Int} {l : String}
    (rest : List String) (h : continuesRun mapType indent l = false) :
    objectRun mapType indent (l :: rest) =
      if mapType ∧ indexFunc l isNotSpace = indent then [l] else [] := by
  simp [objectRun, List.takeWhile_cons, List.dropWhile_cons, h]

theorem mem_objectRun {mapType : Bool} {ind : Int} {lines : List String} {l : String}
    (h : l ∈ objectRun mapType ind lines) : l ∈ lines := by
  simp only [objectRun, List.mem_append] at h
  rcases h with h | h
  · exact (List.takeWhile_prefix _).subset h
  · have hd : l ∈ lines.dropWhile (continuesRun mapType ind) := by
      split at h
      · next x xs hd => rw [hd]; split_ifs at h <;> simp_all
      · simp at h
    exact (List.dropWhile_suffix _).subset hd

/-- A Go line comment on a line of its own: `//`, text without a newline, the newline. -/
def IsCommentLine (s : String) : Prop :=
  s.data.take 2 = ['/', '/'] ∧ (s.data.drop 2).getLast? = some '\n' ∧
    '\n' ∉ (s.data.drop 2).dropLast

instance : DecidablePred IsCommentLine := fun _ => inferInstanceAs (Decidable (_ ∧ _ ∧ _))

theorem isCommentLine_of {s : String} {text : List Char}
    (hs : s.data = '/' :: '/' :: (text ++ ['\n'])) (ht : '\n' ∉ text) : IsCommentLine s := by
  simp [IsCommentLine, hs, ht]

theorem isCommentLine_mk (text : String) (ht : '\n' ∉ text.data) :
    IsCommentLine ("//" ++ text ++ "\n") :=
  isCommentLine_of (show ("//" ++ text ++ "\n").data = '/' :: '/' :: (text.data ++ ['\n']) from rfl) ht

theorem echoLine_isCommentLine {ti l : String} (hl : IsLine l) (hti : '\n' ∉ ti.data) :
    IsCommentLine (echoLine ti l) := by
  obtain ⟨body, hb, hnb⟩ := trimPrefix_isLine hl hti
  refine isCommentLine_of (show _ = '/' :: '/' :: (('\t' :: body) ++ ['\n']) from ?_) ?_
  · show "//\t".data ++ (trimPrefix l ti).data = _
    rw [hb]
    rfl
  · simpa using hnb

theorem commentHeader_isCommentLine (ctx : Context) {goName vppName objKind : String}
    (hg : '\n' ∉ goName.data) (hv : '\n' ∉ vppName.data) (hk : '\n' ∉ objKind.data)
    (hm : '\n' ∉ ctx.moduleName.data) : IsCommentLine (commentHeader ctx goName vppName objKind) := by
  by_cases hs : objKind = "service"
  · have e : commentHeader ctx goName vppName objKind = "//" ++ (" " ++ goName ++
        " represents VPP binary API services in " ++ ctx.moduleName ++ " module.") ++ "\n" := by
      simp only [commentHeader, if_pos hs, String.append_assoc]
      rfl
    rw [e]
    refine isCommentLine_mk _ ?_
    simp only [String.data_append, List.mem_append, not_or]
    exact ⟨⟨⟨⟨by decide, hg⟩, by decide⟩, hm⟩, by decide⟩
  · have e : commentHeader ctx goName vppName objKind = "//" ++ (" " ++ goName ++
        " represents VPP binary API " ++ objKind ++ " \x27" ++ vppName ++ "\x27:") ++ "\n" := by
      simp only [commentHeader, if_neg hs, String.append_assoc]
      rfl
    rw [e]
    refine isCommentLine_mk _ ?_
    simp only [String.data_append, List.mem_append, not_or]
    exact ⟨⟨⟨⟨⟨⟨by decide, hg⟩, by decide⟩, hk⟩, by decide⟩, hv⟩, by decide⟩

section Scan

variable {t : String} {mapType : Bool}

theorem scanSource_found (ind : Int) (ti : String) (lines : List String) :
    scanSource t mapType true ind ti lines = (objectRun mapType ind lines).map (echoLine ti) := by
  induction lines with
  | nil => rfl
  | cons l rest ih =>
    by_cases hlt : indexFunc l isNotSpace < ind
    · have hc : continuesRun mapType ind l = false := by
        cases mapType <;> simp [continuesRun] <;> omega
      have hne : indexFunc l isNotSpace ≠ ind := by omega
      simp [scanSource, hlt, objectRun_cons_of_stop rest hc, hne]
    · by_cases hle : mapType = true ∧ indexFunc l isNotSpace ≤ ind
      · obtain ⟨rfl, hle⟩ := hle
        have hc : continuesRun true ind l = false := by simpa [continuesRun] using Int.not_lt.mpr hle
        have heq : indexFunc l isNotSpace = ind := by omega
        simp [scanSource, hlt, hle, objectRun_cons_of_stop rest hc, heq]
      · have hc : continuesRun mapType ind l = true := by
          cases mapType
          · exact decide_eq_true (Int.not_lt.mp hlt)
          · exact decide_eq_true (Int.not_le.mp fun h => hle ⟨rfl, h⟩)
        simp only [Bool.and_eq_true, decide_eq_true_eq, true_and] at hle
        simp [scanSource, hlt, hle, objectRun_cons_of_continues rest hc, ih]

theorem scanSource_unfound_cons (ind : Int) (ti : String) {l : String} (rest : List String)
    (hl : trimSpace l ≠ t) :
    scanSource t mapType false ind ti (l :: rest) =
      ((preEcho t l).toList ++ scanSource t mapType false (index l t)
        (if index l t = -1 then ti else sliceTo l (index l t)) rest) := by
  by_cases hi : index l t = -1 <;> simp [scanSource, preEcho, hi, hl]

theorem scanSource_header (ht : t ≠ "") (ind : Int) (ti : String) {pre : List String}
    {hdr : String} (post : List String) (hpre : ∀ l ∈ pre, trimSpace l ≠ t) (hhdr : trimSpace hdr = t) :
    scanSource t mapType false ind ti (pre ++ hdr :: post) =
      pre.filterMap (preEcho t) ++ "//\n" ::
        (hdr :: objectRun mapType (byteLen (hdr.data.takeWhile isSpace)) post).map
          (echoLine ⟨hdr.data.takeWhile isSpace⟩) := by
  induction pre generalizing ind ti with
  | nil =>
    obtain ⟨hidx, hslice⟩ := index_of_trimSpace hhdr ht
    have hne : index hdr t ≠ -1 := by rw [hidx]; omega
    rw [hidx] at hslice hne
    simp [scanSource, hne, hhdr, hslice, scanSource_found, hidx]
  | cons l rest ih =>
    rw [List.cons_append, scanSource_unfound_cons ind ti _ (hpre l (by simp)),
      ih _ _ (fun x hx => hpre x (by simp [hx]))]
    cases hp : preEcho t l <;> simp [hp]

theorem scanSource_isCommentLine (ht : t ≠ "") (found : Bool) (ind : Int) {ti : String}
    (hti : '\n' ∉ ti.data) (lines : List String) (hl : ∀ l ∈ lines, IsLine l) :
    ∀ c ∈ scanSource t mapType found ind ti lines, IsCommentLine c := by
  induction lines generalizing found ind ti with
  | nil => simp [scanSource]
  | cons l rest ih =>
    have hrest : ∀ x ∈ rest, IsLine x := fun x hx => hl x (List.mem_cons_of_mem _ hx)
    cases found with
    | true =>
      rw [scanSource_found]
      rintro _ hc
      obtain ⟨x, hx, rfl⟩ := List.mem_map.mp hc
      exact echoLine_isCommentLine (hl x (mem_objectRun hx)) hti
    | false =>
      have hl' := hl l (List.mem_cons_self _ _)
      by_cases hi : index l t = -1
      · simpa [scanSource, hi] using ih false (index l t) hti hrest
      · have hs := sliceTo_index_no_newline hl' ht hi
        have he := echoLine_isCommentLine hl' hs
        by_cases htr : trimSpace l = t
        · simp only [scanSource, Bool.not_false, if_true, if_neg hi, if_pos htr,
            List.forall_mem_cons]
          exact ⟨by decide, he, ih true _ hs hrest⟩
        · simp only [scanSource, Bool.not_false, if_true, if_neg hi, if_neg htr,
            List.forall_mem_cons]
          exact ⟨he, ih false _ hs hrest⟩

end Scan

theorem objTitle_ne_empty (vppName objKind : String) : objTitle vppName objKind ≠ "" := by
  intro h
  have hd : (objTitle vppName objKind).data.head? = some '"' := by
    unfold objTitle
    split <;> rfl
  simp [h] at hd

/-- With `includeComments`, when a source line trims to the object's title, the comment is
the object's comment line, the echoes of the earlier lines that contain the title, `//`,
the first line trimming to the title and the object's run of lines after it, each without
that line's leading spaces, and a last `//`. -/
theorem generateComment_run (ctx : Context) (goName vppName objKind : String)
    (hc : ctx.includeComments = true) {pre post : List String} {hdr : String}
    (hlines : readLines [] ctx.inputData.data = pre ++ hdr :: post)
    (hpre : ∀ l ∈ pre, trimSpace l ≠ objTitle vppName objKind)
    (hhdr : trimSpace hdr = objTitle vppName objKind) :
    generateComment ctx goName vppName objKind =
      commentHeader ctx goName vppName objKind ::
        pre.filterMap (preEcho (objTitle vppName objKind)) ++
        "//\n" :: (hdr :: objectRun (objKind = "alias" || objKind = "service")
          (byteLen (hdr.data.takeWhile isSpace)) post).map
          (echoLine ⟨hdr.data.takeWhile isSpace⟩) ++ ["//\n"] := by
  simp [generateComment, hc, hlines,
    scanSource_header (objTitle_ne_empty vppName objKind) 0 "" post hpre hhdr]

theorem generateComment_run_alias :
    let ctx := commentContext ("  \"aliases\": \x7b\n    \"ip4_address\": \x7b\n" ++
      "      \"type\": \"u8\",\n      \"length\": 4\n    \x7d,\n  \x7d\n")
    let pre := ["  \"aliases\": \x7b\n"]
    let hdr := "    \"ip4_address\": \x7b\n"
    let post := ["      \"type\": \"u8\",\n", "      \"length\": 4\n", "    \x7d,\n", "  \x7d\n"]
    ctx.includeComments = true ∧ readLines [] ctx.inputData.data = pre ++ hdr :: post ∧
      (∀ l ∈ pre, trimSpace l ≠ objTitle "ip4_address" "alias") ∧
      trimSpace hdr = objTitle "ip4_address" "alias" ∧
      generateComment ctx "Ip4Address" "ip4_address" "alias" =
        commentHeader ctx "Ip4Address" "ip4_address" "alias" ::
          pre.filterMap (preEcho (objTitle "ip4_address" "alias")) ++
          "//\n" :: (hdr :: objectRun ("alias" = "alias" || "alias" = "service")
            (byteLen (hdr.data.takeWhile isSpace)) post).map
            (echoLine ⟨hdr.data.takeWhile isSpace⟩) ++ ["//\n"] :=
  ⟨rfl, by decide, by decide, by decide,
    generateComment_run _ _ _ _ rfl (by decide) (by decide) (by decide)⟩

example : generateComment (commentContext ("  \"aliases\": \x7b\n    \"ip4_address\": \x7b\n" ++
      "      \"type\": \"u8\",\n      \"length\": 4\n    \x7d,\n  \x7d\n")) "Ip4Address"
      "ip4_address" "alias" =
    ["// Ip4Address represents VPP binary API alias \x27ip4_address\x27:\n", "//\n",
      "//\t\"ip4_address\": \x7b\n", "//\t  \"type\": \"u8\",\n", "//\t  \"length\": 4\n",
      "//\t\x7d,\n", "//\n"] := by
  decide

/-- The comment never depends on text after the last newline of the source: `ReadString`
returns such a tail only with an error, and the scan stops there. -/
theorem generateComment_unterminated (ctx : Context) (goName vppName objKind : String)
    {s t : String} (hs : s.data.getLast? = some '\n') (ht : '\n' ∉ t.data) :
    generateComment { ctx with inputData := s ++ t } goName vppName objKind =
      generateComment { ctx with inputData := s } goName vppName objKind := by
  obtain ⟨s', hs'⟩ : ∃ s', s.data = s' ++ ['\n'] :=
    ⟨s.data.dropLast, (List.dropLast_append_getLast? _ hs).symm⟩
  have hl : readLines [] (s ++ t).data = readLines [] s.data := by
    rw [String.data_append, hs', List.append_assoc, List.singleton_append,
      readLines_append_newline, readLines_of_no_newline _ ht, List.append_nil]
  simp only [generateComment, commentHeader, hl]

theorem generateComment_unterminated_message :
    (" \"N\",\n" : String).data.getLast? = some '\n' ∧ '\n' ∉ ("    [\"u8\", \"N\", 4]" : String).data ∧
      generateComment { commentContext "" with inputData := " \"N\",\n" ++ "    [\"u8\", \"N\", 4]" }
          "N" "N" "message" =
        generateComment { commentContext "" with inputData := " \"N\",\n" } "N" "N" "message" :=
  ⟨by decide, by decide, generateComment_unterminated (commentContext "") "N" "N" "message"
    (by decide) (by decide)⟩

example : generateComment (commentContext "  \"N\",") "N" "N" "message" =
    ["// N represents VPP binary API message \x27N\x27:\n", "//\n"] := by
  decide

/-- Whatever the JSON source holds, every chunk `generateComment` writes is one `//` line
comment when the names it prints hold no newline: the excerpt cannot close the comment and
leak source text into the generated Go code. -/
theorem generateComment_comment_lines (ctx : Context) {goName vppName objKind : String}
    (hg : '\n' ∉ goName.data) (hv : '\n' ∉ vppName.data) (hk : '\n' ∉ objKind.data)
    (hm : '\n' ∉ ctx.moduleName.data) :
    ∀ c ∈ generateComment ctx goName vppName objKind, IsCommentLine c := by
  have hh := commentHeader_isCommentLine ctx hg hv hk hm
  have hs := @scanSource_isCommentLine (objTitle vppName objKind)
    (objKind = "alias" || objKind = "service") (objTitle_ne_empty vppName objKind) false 0 ""
    (by decide) (readLines [] ctx.inputData.data) (readLines_isLine _ (List.not_mem_nil _))
  unfold generateComment
  split
  · simpa using hh
  · simp only [List.cons_append, List.forall_mem_cons, List.mem_append, List.mem_singleton]
    exact ⟨hh, fun c hc => hc.elim (hs c) (fun e => e ▸ by decide)⟩

theorem generateComment_comment_lines_alias :
    '\n' ∉ ("Ip4Address" : String).data ∧ '\n' ∉ ("ip4_address" : String).data ∧
      '\n' ∉ ("alias" : String).data ∧
      '\n' ∉ (commentContext "  \"ip4_address\": \x7b \"type\": \"u8\"\n").moduleName.data ∧
      ∀ c ∈ generateComment (commentContext "  \"ip4_address\": \x7b \"type\": \"u8\"\n")
        "Ip4Address" "ip4_address" "alias", IsCommentLine c :=
  ⟨by decide, by decide, by decide, by decide,
    generateComment_comment_lines _ (by decide) (by decide) (by decide) (by decide)⟩

/-- The scan echoes a fragment of a line that only contains the title, although no line
trims to it. -/
theorem generateComment_echoes_partial_title :
    (∀ l ∈ readLines [] "    [\"u8\", \"N\", 4],\n".data, trimSpace l ≠ objTitle "N" "message") ∧
      generateComment (commentContext "    [\"u8\", \"N\", 4],\n") "N" "N" "message" =
        ["// N represents VPP binary API message \x27N\x27:\n", "//\t\"N\", 4],\n", "//\n"] := by
  decide

end BinapiGenerator
