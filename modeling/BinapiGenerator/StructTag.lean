import BinapiGenerator.Field

/-! The struct tags `generateField` writes, as the struc runtime reads them: Go's
`reflect.StructTag.Lookup` over the text between the backquotes. A tag written from keys and
values that need no escaping reads back as the list of its key/value pairs. -/

namespace BinapiGenerator

open Go

/-- Modelled from Go's `reflect.StructTag.Lookup`: the raw text of a quoted value after its
opening quote, and the text after its closing quote; a backslash escapes the next rune. -/
def scanQuoted : List Char → Option (List Char × List Char)
  | [] => none
  | c :: rest =>
    if c = '"' then some ([], rest)
    else if c = '\\' then
      match rest with
      | [] => none
      | d :: rest' => (scanQuoted rest').map fun (b, a) => (c :: d :: b, a)
    else (scanQuoted rest).map fun (b, a) => (c :: b, a)

def isTagNameRune (c : Char) : Bool := ' ' < c && c ≠ ':' && c ≠ '"' && c.toNat ≠ 0x7f

/-- Modelled from Go's `reflect.StructTag.Lookup`: the value of `key`, reading at most `fuel`
key/value pairs; `none` where Go returns `ok = false`. -/
def tagLookup (key : List Char) : Nat → List Char → Option String
  | 0, _ => none
  | fuel + 1, tag =>
    let tag := tag.dropWhile (· = ' ')
    let name := tag.takeWhile isTagNameRune
    match tag.drop name.length with
    | ':' :: '"' :: rest =>
      if name = [] then none
      else match scanQuoted rest with
        | none => none
        | some (body, after) =>
          if key = name then unquote ⟨'"' :: body ++ ['"']⟩ else tagLookup key fuel after
    | _ => none

def lookupTag (tag key : String) : Option String := tagLookup key.data tag.length tag.data

/-- The struct tag `generateField` writes between backquotes: the value of that raw string
literal when it holds no backquote, which would end it, and no carriage return, which Go
drops from it. -/
def structTag (tags : List (String × String)) : String := ⟨(renderTags 0 tags).flatMap String.data⟩

def TagKey (k : String) : Prop :=
  k.data ≠ [] ∧ ∀ c ∈ k.data, isTagNameRune c = true ∧ c ≠ '`'

instance : DecidablePred TagKey := fun _ => inferInstanceAs (Decidable (_ ∧ _))

/-- A value written between quotes as it is that reads back as itself, inside a raw string
literal that keeps it whole. -/
def TagValue (v : String) : Prop :=
  ∀ c ∈ v.data, c ≠ '"' ∧ c ≠ '\n' ∧ c ≠ '\\' ∧ c ≠ '`' ∧ c ≠ '\r'

instance : DecidablePred TagValue := fun _ => inferInstanceAs (Decidable (∀ _ ∈ _, _))

theorem scanQuoted_cons {c : Char} (h1 : c ≠ '"') (h3 : c ≠ '\\') (rest : List Char) :
    scanQuoted (c :: rest) = (scanQuoted rest).map fun (b, a) => (c :: b, a) := by
  rw [scanQuoted.eq_def]
  simp only [if_neg h1, if_neg h3]

theorem scanQuoted_quote (after : List Char) : scanQuoted ('"' :: after) = some ([], after) := by
  rw [scanQuoted.eq_def]
  simp

theorem scanQuoted_plain {v : List Char} (hv : ∀ c ∈ v, c ≠ '"' ∧ c ≠ '\n' ∧ c ≠ '\\')
    (after : List Char) : scanQuoted (v ++ '"' :: after) = some (v, after) := by
  induction v with
  | nil => exact scanQuoted_quote after
  | cons c v ih =>
    obtain ⟨h1, -, h3⟩ := hv c (by simp)
    rw [List.cons_append, scanQuoted_cons h1 h3, ih fun x hx => hv x (by simp [hx])]
    rfl

theorem unquote_plain {v : String} (hv : TagValue v) : unquote ⟨'"' :: v.data ++ ['"']⟩ = some v := by
  have hb : ∀ l : List Char, (∀ c ∈ l, c ≠ '"' ∧ c ≠ '\n' ∧ c ≠ '\\') →
      unquoteBody (l ++ ['"']) = some l := by
    intro l hl
    induction l with
    | nil => simp [unquoteBody]
    | cons c l ih =>
      obtain ⟨h1, h2, h3⟩ := hl c (by simp)
      rw [List.cons_append, unquoteBody_plain h1 h2 h3, ih fun x hx => hl x (by simp [hx])]
      rfl
  simp [unquote, hb v.data fun c hc => ⟨(hv c hc).1, (hv c hc).2.1, (hv c hc).2.2.1⟩]

theorem tagLookup_pair (key : List Char) (fuel : Nat) {sp : List Char} {k v : String}
    (hsp : ∀ c ∈ sp, c = ' ') (hk : TagKey k) (hv : TagValue v) (after : List Char) :
    tagLookup key (fuel + 1) (sp ++ (k.data ++ ':' :: '"' :: (v.data ++ '"' :: after))) =
      if key = k.data then some v else tagLookup key fuel after := by
  obtain ⟨hne, hkr⟩ := hk
  obtain ⟨c, cs, hc⟩ := List.exists_cons_of_ne_nil hne
  have hc0 : c ≠ ' ' := by
    have := (hkr c (by simp [hc])).1
    intro e
    subst e
    exact absurd this (by decide)
  have hdrop (r : List Char) : (sp ++ (k.data ++ r)).dropWhile (· = ' ') = k.data ++ r := by
    rw [List.dropWhile_append_of_pos (by simpa using hsp), hc, List.cons_append]
    exact List.dropWhile_cons_of_neg (by simpa using hc0)
  have htake (r : List Char) : (k.data ++ ':' :: r).takeWhile isTagNameRune = k.data := by
    rw [List.takeWhile_append_of_pos fun c hc => (hkr c hc).1]
    simp [isTagNameRune]
  simp only [tagLookup, hdrop, htake, List.drop_left, if_neg hne,
    scanQuoted_plain fun c hc => ⟨(hv c hc).1, (hv c hc).2.1, (hv c hc).2.2.1⟩, unquote_plain hv]

theorem length_le_renderTags (n : Nat) (tags : List (String × String)) :
    tags.length ≤ ((renderTags n tags).flatMap String.data).length := by
  induction tags generalizing n with
  | nil => exact Nat.zero_le _
  | cons kt rest ih =>
    have hq : 1 ≤ (kt.1 ++ ":\"" ++ kt.2 ++ "\"").data.length := by
      rw [String.data_append, List.length_append]
      exact Nat.le_add_left _ _
    have := ih (n + 1)
    simp only [renderTags, List.flatMap_append, List.flatMap_cons, List.length_append,
      List.length_cons]
    omega

theorem tagLookup_renderTags (key : List Char) (n : Nat) {tags : List (String × String)}
    (hk : ∀ p ∈ tags, TagKey p.1) (hv : ∀ p ∈ tags, TagValue p.2) {fuel : Nat}
    (hf : tags.length ≤ fuel) :
    tagLookup key fuel ((renderTags n tags).flatMap String.data) =
      tags.lookup ⟨key⟩ := by
  induction tags generalizing n fuel with
  | nil =>
    cases fuel <;> rfl
  | cons kt rest ih =>
    obtain ⟨k, v⟩ := kt
    obtain ⟨f, rfl⟩ : ∃ f, fuel = f + 1 := ⟨fuel - 1, by simp at hf; omega⟩
    have hsp : ∀ c ∈ (if n > 0 then [" "] else []).flatMap String.data, c = ' ' := by
      split <;> simp
    have hpair := tagLookup_pair key f hsp (hk (k, v) (by simp)) (hv (k, v) (by simp))
      ((renderTags (n + 1) rest).flatMap String.data)
    simp only [renderTags, List.flatMap_append, List.flatMap_cons, String.data_append,
      List.append_assoc, List.cons_append, List.nil_append] at hpair ⊢
    rw [hpair, ih (n + 1) (fun p hp => hk p (by simp [hp])) (fun p hp => hv p (by simp [hp]))
      (by simp at hf; omega)]
    by_cases he : key = k.data
    · simp [he, List.lookup_cons]
    · have hne : ((⟨key⟩ : String) == k) = false := beq_false_of_ne fun e => he (by rw [← e])
      simp [he, List.lookup_cons, hne]

theorem lookupTag_structTag {tags : List (String × String)} (hk : ∀ p ∈ tags, TagKey p.1)
    (hv : ∀ p ∈ tags, TagValue p.2) (key : String) :
    lookupTag (structTag tags) key = tags.lookup key :=
  tagLookup_renderTags key.data 0 hk hv (length_le_renderTags 0 tags)

example : lookupTag (structTag [("binapi", "count"), ("struc", "sizeof=Data")]) "struc" =
    some "sizeof=Data" :=
  (lookupTag_structTag (by decide) (by decide) "struc").trans rfl

/-- The struc runtime reads, from the tag of the member `generateField` declares for a
field, exactly the `struc` and `binapi` values the generator computed, when these hold no
quote, backslash or newline. -/
theorem generateField_tag_lookup (h : Helpers) (ctx : Context) {fields : List Field} {i : Nat}
    {field : Field} (hi : fields[i]? = some field)
    (hv : ∀ p ∈ fieldTags h ctx fields field (fieldDataType h field), TagValue p.2)
    (hne : fieldTags h ctx fields field (fieldDataType h field) ≠ []) :
    List.IsInfix ("\t`" :: renderTags 0 (fieldTags h ctx fields field (fieldDataType h field)) ++
        ["`"]) (generateField h ctx fields i) ∧
      lookupTag (structTag (fieldTags h ctx fields field (fieldDataType h field))) "struc" =
        strucTag h fields field (fieldDataType h field) ∧
      lookupTag (structTag (fieldTags h ctx fields field (fieldDataType h field))) "binapi" =
        binapiTag ctx field := by
  have hk : ∀ p ∈ fieldTags h ctx fields field (fieldDataType h field), TagKey p.1 := by
    have kb : TagKey "binapi" := by decide
    have ks : TagKey "struc" := by decide
    intro p hp
    cases hb : binapiTag ctx field <;> cases hs : strucTag h fields field (fieldDataType h field) <;>
      simp [fieldTags, hb, hs] at hp <;> rcases hp with rfl | rfl <;> assumption
  refine ⟨?_, ?_, ?_⟩
  · simp only [generateField, hi]
    rw [if_neg hne]
    exact List.infix_append _ _ ["\n"]
  all_goals
    rw [lookupTag_structTag hk hv]
    cases hb : binapiTag ctx field <;> cases hs : strucTag h fields field (fieldDataType h field) <;>
      simp [fieldTags, hb, hs, List.lookup_cons]

theorem generateField_tag_lookup_count :
    let ctx : Context := { commentContext "" with includeBinapiNames := true }
    let count : Field := ⟨"count", "u32", 0, "", 0⟩
    let data : Field := ⟨"data", "u8", 0, "count", 0⟩
    [count, data][0]? = some count ∧
      (∀ p ∈ fieldTags Helpers.vpp ctx [count, data] count (fieldDataType Helpers.vpp count),
        TagValue p.2) ∧
      fieldTags Helpers.vpp ctx [count, data] count (fieldDataType Helpers.vpp count) ≠ [] ∧
      (List.IsInfix ("\t`" :: renderTags 0 (fieldTags Helpers.vpp ctx [count, data] count
            (fieldDataType Helpers.vpp count)) ++ ["`"]) (generateField Helpers.vpp ctx [count, data] 0) ∧
        lookupTag (structTag (fieldTags Helpers.vpp ctx [count, data] count
            (fieldDataType Helpers.vpp count))) "struc" =
          strucTag Helpers.vpp [count, data] count (fieldDataType Helpers.vpp count) ∧
        lookupTag (structTag (fieldTags Helpers.vpp ctx [count, data] count
            (fieldDataType Helpers.vpp count))) "binapi" = binapiTag ctx count) := by
  intro ctx count data
  exact ⟨rfl, by decide, by decide,
    @generateField_tag_lookup Helpers.vpp ctx [count, data] 0 count rfl (by decide) (by decide)⟩

end BinapiGenerator
