import Mathlib.Data.List.Basic
import Mathlib.Algebra.Group.Nat.Basic

/-! The functions of Go's `strings`, `unicode`, `strconv` and `bytes` packages that the
generator calls, and the reading of a Go interpreted string literal from the Go
specification, which says what the literals `%q` writes into generated code denote. A Go
string is a string of runes here; indices are byte offsets, as in Go. -/

namespace BinapiGenerator

namespace Go

/-- `unicode.IsSpace`: the Latin-1 spaces, and the other runes of `White_Space`. -/
def isSpace (c : Char) : Bool :=
  if c.toNat ≤ 0xFF then [0x09, 0x0A, 0x0B, 0x0C, 0x0D, 0x20, 0x85, 0xA0].contains c.toNat
  else [0x1680, 0x2028, 0x2029, 0x202F, 0x205F, 0x3000].contains c.toNat ||
    (0x2000 ≤ c.toNat && c.toNat ≤ 0x200A)

def byteLen : List Char → Nat
  | [] => 0
  | c :: cs => c.utf8Size + byteLen cs

/-- `s[:n]` for a byte offset `n` that falls on a rune boundary. -/
def takeBytes : List Char → Nat → List Char
  | [], _ => []
  | c :: cs, n => if c.utf8Size ≤ n then c :: takeBytes cs (n - c.utf8Size) else []

def findFrom (t : List Char) : List Char → Option Nat
  | [] => if t.isPrefixOf [] then some 0 else none
  | c :: cs => if t.isPrefixOf (c :: cs) then some 0 else (findFrom t cs).map (· + 1)

/-- `strings.Index`: the byte offset of the first occurrence of `t`, or `-1`. -/
def index (s t : String) : Int :=
  match findFrom t.data s.data with
  | some k => byteLen (s.data.take k)
  | none => -1

def indexFunc (s : String) (f : Char → Bool) : Int :=
  if s.data.any f then byteLen (s.data.takeWhile fun c => !f c) else -1

def sliceTo (s : String) (n : Int) : String := ⟨takeBytes s.data n.toNat⟩

def trimSpace (s : String) : String :=
  ⟨((s.data.dropWhile isSpace).reverse.dropWhile isSpace).reverse⟩

def hasPrefix (s p : String) : Bool := p.data.isPrefixOf s.data

def hasSuffix (s p : String) : Bool := p.data.isSuffixOf s.data

def trimPrefix (s p : String) : String := if hasPrefix s p then ⟨s.data.drop p.length⟩ else s

def trimSuffix (s p : String) : String :=
  if hasSuffix s p then ⟨s.data.take (s.length - p.length)⟩ else s

/-- The lines `bytes.Buffer.ReadString('\n')` returns before it fails: each keeps its
newline, and text after the last newline is never returned without an error. -/
def readLines (acc : List Char) : List Char → List String
  | [] => []
  | c :: cs => if c = '\n' then ⟨acc ++ [c]⟩ :: readLines [] cs else readLines (acc ++ [c]) cs

def hexDigit (n : Nat) : Char := if n < 10 then Char.ofNat (48 + n) else Char.ofNat (87 + n)

def hexDigits : Nat → Nat → List Char
  | 0, _ => []
  | k + 1, n => hexDigits k (n / 16) ++ [hexDigit (n % 16)]

/-- `unicode.IsPrint`, whose tables lie outside this repository: the printable ASCII runes are
printable and the control runes are not. -/
structure PrintTable where
  isPrint : Char → Bool
  isPrint_ascii : ∀ c : Char, 0x20 ≤ c.toNat → c.toNat < 0x7F → isPrint c = true
  isPrint_control : ∀ c : Char, c.toNat < 0x20 ∨ c.toNat = 0x7F → isPrint c = false

/-- One rune as `strconv.Quote` writes it: escaped unless printable, by `\x` below ASCII,
by `\u` below `0x10000` and by `\U` above. -/
def quoteRune (pt : PrintTable) (c : Char) : List Char :=
  if c = '"' ∨ c = '\\' then ['\\', c]
  else if pt.isPrint c then [c]
  else if c.toNat = 7 then ['\\', 'a'] else if c.toNat = 8 then ['\\', 'b']
  else if c.toNat = 12 then ['\\', 'f'] else if c = '\n' then ['\\', 'n']
  else if c = '\r' then ['\\', 'r'] else if c = '\t' then ['\\', 't']
  else if c.toNat = 11 then ['\\', 'v']
  else if c.toNat < 0x20 ∨ c.toNat = 0x7F then '\\' :: 'x' :: hexDigits 2 c.toNat
  else if c.toNat < 0x10000 then '\\' :: 'u' :: hexDigits 4 c.toNat
  else '\\' :: 'U' :: hexDigits 8 c.toNat

/-- `strconv.Quote`, the `%q` verb. -/
def quote (pt : PrintTable) (s : String) : String :=
  ⟨'"' :: s.data.flatMap (quoteRune pt) ++ ['"']⟩

def hexVal (c : Char) : Option Nat :=
  if '0' ≤ c ∧ c ≤ '9' then some (c.toNat - 48)
  else if 'a' ≤ c ∧ c ≤ 'f' then some (c.toNat - 87)
  else if 'A' ≤ c ∧ c ≤ 'F' then some (c.toNat - 55)
  else none

def hexNum (ds : List Char) : Option Nat :=
  ds.foldl (fun acc d => acc.bind fun a => (hexVal d).map (16 * a + ·)) (some 0)

def validRune (v : Nat) : Bool := v < 0xD800 || (0xDFFF < v && v ≤ 0x10FFFF)

def simpleEscape (c : Char) : Option Char :=
  if c = 'a' then some (Char.ofNat 7) else if c = 'b' then some (Char.ofNat 8)
  else if c = 'f' then some (Char.ofNat 12) else if c = 'n' then some '\n'
  else if c = 'r' then some '\r' else if c = 't' then some '\t'
  else if c = 'v' then some (Char.ofNat 11) else if c = '\\' then some '\\'
  else if c = '"' then some '"' else none

/-- The rune an escape denotes, read from the text after its backslash, and the text after
the escape. Octal escapes and `\x` escapes above ASCII denote bytes, not runes, and are not
read: `%q` writes neither. -/
def unescape : List Char → Option (Char × List Char)
  | 'x' :: d1 :: d2 :: rest =>
    (hexNum [d1, d2]).bind fun v => if v < 0x80 then some (Char.ofNat v, rest) else none
  | 'u' :: d1 :: d2 :: d3 :: d4 :: rest =>
    (hexNum [d1, d2, d3, d4]).bind fun v =>
      if validRune v then some (Char.ofNat v, rest) else none
  | 'U' :: d1 :: d2 :: d3 :: d4 :: d5 :: d6 :: d7 :: d8 :: rest =>
    (hexNum [d1, d2, d3, d4, d5, d6, d7, d8]).bind fun v =>
      if validRune v then some (Char.ofNat v, rest) else none
  | e :: rest => (simpleEscape e).map (·, rest)
  | [] => none

theorem unescape_length {l r : List Char} {d : Char} (h : unescape l = some (d, r)) :
    r.length < l.length := by
  unfold unescape at h
  split at h
  all_goals first
    | cases h
    | (obtain ⟨v, -, hv⟩ := Option.bind_eq_some.mp h
       split at hv <;> cases hv
       simp only [List.length_cons]; omega)
    | (obtain ⟨e, -, he⟩ := Option.map_eq_some'.mp h; cases he; simp)

/-- The runes the rest of a Go interpreted string literal denotes, after its opening quote;
`none` unless the text ends at the closing quote. -/
def unquoteBody (l : List Char) : Option (List Char) :=
  match l with
  | [] => none
  | c :: rest =>
    if c = '"' then (if rest = [] then some [] else none)
    else if c = '\n' then none
    else if c = '\\' then
      match h : unescape rest with
      | some (d, rest') =>
        have := unescape_length h
        (unquoteBody rest').map (d :: ·)
      | none => none
    else (unquoteBody rest).map (c :: ·)
termination_by l.length
decreasing_by
  all_goals simp_wf
  all_goals omega

def unquote (s : String) : Option String :=
  match s.data with
  | '"' :: body => (unquoteBody body).map String.mk
  | _ => none

def padInt3 (n : Nat) : String :=
  ⟨List.replicate (3 - (toString n).length) ' ' ++ (toString n).data⟩

@[simp] theorem byteLen_append (a b : List Char) : byteLen (a ++ b) = byteLen a + byteLen b := by
  induction a with
  | nil => simp [byteLen]
  | cons c cs ih => simp [byteLen, ih, Nat.add_assoc]

theorem takeBytes_byteLen (a b : List Char) : takeBytes (a ++ b) (byteLen a) = a ++ takeBytes b 0 := by
  induction a with
  | nil => rfl
  | cons c cs ih => simp [takeBytes, byteLen, ih]

@[simp] theorem takeBytes_zero (b : List Char) : takeBytes b 0 = [] := by
  cases b with
  | nil => rfl
  | cons c cs => simp [takeBytes, Char.utf8Size_pos c |>.ne']

theorem findFrom_spaces {t ws rest : List Char} {c : Char} (ht : t.head? = some c)
    (hc : isSpace c = false) (hws : ∀ x ∈ ws, isSpace x = true) (hpre : t.isPrefixOf rest) :
    findFrom t (ws ++ rest) = some ws.length := by
  induction ws with
  | nil =>
    cases rest with
    | nil => simp [findFrom, hpre]
    | cons r rs => simp [findFrom, hpre]
  | cons x xs ih =>
    have hx : isSpace x = true := hws x (by simp)
    have hno : t.isPrefixOf (x :: (xs ++ rest)) = false := by
      obtain ⟨d, ds, rfl⟩ : ∃ d ds, t = d :: ds :=
        List.exists_cons_of_ne_nil (by rintro rfl; simp at ht)
      have hd : d ≠ x := by rintro rfl; simp_all
      simp [List.isPrefixOf, hd]
    simp [findFrom, hno, ih (fun y hy => hws y (by simp [hy]))]

theorem trimSpace_eq_split {l t : String} (h : trimSpace l = t) :
    l.data = l.data.takeWhile isSpace ++ t.data ++
      (((l.data.dropWhile isSpace).reverse.takeWhile isSpace).reverse) := by
  subst h
  have hd := congrArg List.reverse
    (List.takeWhile_append_dropWhile isSpace (l.data.dropWhile isSpace).reverse)
  simp only [List.reverse_append, List.reverse_reverse] at hd
  conv_lhs => rw [← List.takeWhile_append_dropWhile isSpace l.data, ← hd]
  simp [trimSpace]

theorem index_of_findFrom {s t : String} {ws rest : List Char} (hs : s.data = ws ++ rest)
    (hf : findFrom t.data s.data = some ws.length) :
    index s t = byteLen ws ∧ sliceTo s (index s t) = ⟨ws⟩ := by
  have hidx : index s t = byteLen ws := by
    simp only [index, hf]
    rw [hs, List.take_left]
  refine ⟨hidx, ?_⟩
  simp only [sliceTo, hidx, Int.toNat_ofNat]
  rw [hs, takeBytes_byteLen, takeBytes_zero, List.append_nil]

theorem index_of_trimSpace {l t : String} (h : trimSpace l = t) (ht : t ≠ "") :
    index l t = byteLen (l.data.takeWhile isSpace) ∧
      sliceTo l (index l t) = ⟨l.data.takeWhile isSpace⟩ := by
  have hs := trimSpace_eq_split h
  obtain ⟨c, cs, hc⟩ : ∃ c cs, t.data = c :: cs :=
    List.exists_cons_of_ne_nil (fun e => ht (String.ext e))
  have hsc : isSpace c = false := by
    have hd : l.data.dropWhile isSpace = t.data ++
        ((l.data.dropWhile isSpace).reverse.takeWhile isSpace).reverse := by
      refine List.append_cancel_left (?_ : l.data.takeWhile isSpace ++ _ = _ ++ _)
      rw [List.takeWhile_append_dropWhile, ← List.append_assoc]
      exact hs
    have hn := List.head?_dropWhile_not isSpace l.data
    rw [hd, hc] at hn
    simpa using hn
  have hall : ∀ x ∈ l.data.takeWhile isSpace, isSpace x = true :=
    fun x hx => List.mem_takeWhile_imp hx
  generalize l.data.takeWhile isSpace = ws at hs hall ⊢
  rw [List.append_assoc] at hs
  exact index_of_findFrom hs (by rw [hs]; exact findFrom_spaces (by simp [hc]) hsc hall (by simp))

theorem findFrom_singleton {c : Char} {l : List Char} (h : c ∈ l) :
    findFrom [c] l = some (l.takeWhile (· ≠ c)).length := by
  induction l with
  | nil => simp at h
  | cons x xs ih =>
    by_cases hx : x = c
    · subst hx
      simp [findFrom, List.isPrefixOf]
    · have hxs : c ∈ xs := by simpa [Ne.symm hx] using h
      simp [findFrom, List.isPrefixOf, hx, Ne.symm hx, ih hxs]

theorem takeWhile_ne_prefix {c : Char} {l : List Char} (h : c ∈ l) :
    List.IsPrefix (l.takeWhile (· ≠ c) ++ [c]) l := by
  induction l with
  | nil => simp at h
  | cons x xs ih =>
    by_cases hx : x = c
    · subst hx
      simp
    · have hxs : c ∈ xs := by simpa [Ne.symm hx] using h
      simpa [hx] using ih hxs

theorem index_singleton {s t : String} {c : Char} (ht : t.data = [c]) (h : c ∈ s.data) :
    index s t = byteLen (s.data.takeWhile (· ≠ c)) ∧
      sliceTo s (index s t) = ⟨s.data.takeWhile (· ≠ c)⟩ :=
  index_of_findFrom (List.takeWhile_append_dropWhile _ _).symm (ht ▸ findFrom_singleton h)

theorem readLines_of_no_newline (acc : List Char) {t : List Char} (ht : '\n' ∉ t) :
    readLines acc t = [] := by
  induction t generalizing acc with
  | nil => rfl
  | cons c t ih =>
    have hc : c ≠ '\n' := fun e => ht (e ▸ List.mem_cons_self _ _)
    simp [readLines, hc, ih _ fun h => ht (List.mem_cons_of_mem _ h)]

theorem readLines_append_newline (acc s t : List Char) :
    readLines acc (s ++ '\n' :: t) = readLines acc (s ++ ['\n']) ++ readLines [] t := by
  induction s generalizing acc with
  | nil => simp [readLines]
  | cons c s ih => by_cases hc : c = '\n' <;> simp [readLines, hc, ih]

/-- A line `ReadString('\n')` returns: runes without a newline, then the newline. -/
def IsLine (l : String) : Prop := ∃ body, l.data = body ++ ['\n'] ∧ '\n' ∉ body

theorem readLines_isLine {acc : List Char} (cs : List Char) (hacc : '\n' ∉ acc) :
    ∀ l ∈ readLines acc cs, IsLine l := by
  induction cs generalizing acc with
  | nil => simp [readLines]
  | cons c cs ih =>
    by_cases hc : c = '\n'
    · subst hc
      simp only [readLines, if_true, List.mem_cons]
      rintro l (rfl | hl)
      · exact ⟨acc, rfl, hacc⟩
      · exact ih (List.not_mem_nil _) l hl
    · simp only [readLines, if_neg hc]
      exact ih (by simp [hacc, Ne.symm hc])

theorem readLines_join {acc : List Char} (cs : List Char) (hacc : '\n' ∉ acc) :
    ∃ tail, '\n' ∉ tail ∧ (readLines acc cs).flatMap String.data ++ tail = acc ++ cs := by
  induction cs generalizing acc with
  | nil => exact ⟨acc, hacc, by simp [readLines]⟩
  | cons c cs ih =>
    by_cases hc : c = '\n'
    · subst hc
      obtain ⟨tail, ht, he⟩ := ih (List.not_mem_nil _)
      exact ⟨tail, ht, by simp [readLines, he]⟩
    · obtain ⟨tail, ht, he⟩ := @ih (acc ++ [c]) (by simp [hacc, Ne.symm hc])
      exact ⟨tail, ht, by simp [readLines, hc, he]⟩

/-- The read loop of `generateComment` splits the source into lines and loses nothing but
the text after the last newline: every line is newline-free text and a newline, and the
lines joined, then that tail, give back the source. -/
theorem readLines_split (s : List Char) :
    (∀ l ∈ readLines [] s, IsLine l) ∧
      ∃ tail, '\n' ∉ tail ∧ (readLines [] s).flatMap String.data ++ tail = s := by
  obtain ⟨tail, ht, he⟩ := readLines_join s (List.not_mem_nil _)
  exact ⟨readLines_isLine s (List.not_mem_nil _), tail, ht, he⟩

theorem findFrom_isPrefixOf {t s : List Char} {k : Nat} (h : findFrom t s = some k) :
    t.isPrefixOf (s.drop k) = true := by
  induction s generalizing k with
  | nil =>
    simp only [findFrom] at h
    split at h <;> simp_all
  | cons c cs ih =>
    simp only [findFrom] at h
    split at h
    · cases h; assumption
    · obtain ⟨k', hk', rfl⟩ := Option.map_eq_some'.mp h
      exact ih hk'

theorem sliceTo_index_no_newline {l t : String} (hl : IsLine l) (ht : t ≠ "")
    (hi : index l t ≠ -1) : '\n' ∉ (sliceTo l (index l t)).data := by
  obtain ⟨body, hb, hnb⟩ := hl
  cases hf : findFrom t.data l.data with
  | none => simp [index, hf] at hi
  | some k =>
    have hp := findFrom_isPrefixOf hf
    have hk : k ≤ body.length := by
      by_contra hge
      rw [hb, List.drop_eq_nil_of_le (by simp; omega)] at hp
      exact ht (String.ext (by simpa [List.isPrefixOf_nil_left] using hp))
    have hlen : (l.data.take k).length = k := List.length_take_of_le (by rw [hb]; simp; omega)
    obtain ⟨-, hs⟩ := index_of_findFrom (List.take_append_drop k l.data).symm (hlen ▸ hf)
    rw [hs, hb, List.take_append_of_le_length hk]
    exact fun hm => hnb (List.mem_of_mem_take hm)

theorem trimPrefix_isLine {l p : String} (hl : IsLine l) (hp : '\n' ∉ p.data) :
    IsLine (trimPrefix l p) := by
  obtain ⟨body, hb, hnb⟩ := hl
  unfold trimPrefix
  split
  · next hpre =>
    have hpre : p.data <+: l.data := List.isPrefixOf_iff_prefix.mp hpre
    have hle : p.data.length ≤ body.length := by
      by_contra hgt
      have hlen := hpre.length_le
      rw [hb, List.length_append, List.length_singleton] at hlen
      have heq : p.data = l.data :=
        hpre.eq_of_length (by rw [hb, List.length_append, List.length_singleton]; omega)
      exact hp (by rw [heq, hb]; simp)
    refine ⟨body.drop p.data.length, ?_, fun hm => hnb (List.mem_of_mem_drop hm)⟩
    show l.data.drop p.data.length = _
    rw [hb, List.drop_append_of_le_length hle]
  · exact ⟨body, hb, hnb⟩

theorem hexVal_hexDigit {d : Nat} (h : d < 16) : hexVal (hexDigit d) = some d := by
  obtain ⟨d, h⟩ : ∃ f : Fin 16, f.val = d := ⟨⟨d, h⟩, rfl⟩
  subst h
  revert d
  decide

theorem hexNum_hexDigits (k n : Nat) : hexNum (hexDigits k n) = some (n % 16 ^ k) := by
  induction k generalizing n with
  | zero => simp [hexNum, hexDigits, Nat.mod_one]
  | succ k ih =>
    have ih' := ih (n / 16)
    simp only [hexNum, hexDigits, List.foldl_append] at ih' ⊢
    rw [ih']
    simp [hexVal_hexDigit (Nat.mod_lt n (by decide : 16 > 0)), Nat.pow_succ', Nat.mod_mul,
      Nat.add_comm]

theorem validRune_toNat (c : Char) : validRune c.toNat = true := by
  have hv := c.valid
  simp only [UInt32.isValidChar, Nat.isValidChar] at hv
  simp only [validRune, Bool.or_eq_true, Bool.and_eq_true, decide_eq_true_eq]
  change c.val.toNat < 0xD800 ∨ (0xDFFF < c.val.toNat ∧ c.val.toNat ≤ 0x10FFFF)
  omega

theorem unquoteBody_plain {c : Char} (h1 : c ≠ '"') (h2 : c ≠ '\n') (h3 : c ≠ '\\')
    (rest : List Char) : unquoteBody (c :: rest) = (unquoteBody rest).map (c :: ·) := by
  rw [unquoteBody]
  simp only [if_neg h1, if_neg h2, if_neg h3]

theorem unquoteBody_backslash {rest rest' : List Char} {d : Char}
    (h : unescape rest = some (d, rest')) :
    unquoteBody ('\\' :: rest) = (unquoteBody rest').map (d :: ·) := by
  rw [unquoteBody]
  simp only [show ('\\' : Char) ≠ '"' by decide, show ('\\' : Char) ≠ '\n' by decide, if_false,
    if_true]
  split
  · next d' r' h' => rw [h] at h'; cases h'; rfl
  · next h' => rw [h] at h'; cases h'

theorem unescape_simple {c e : Char} (hc : simpleEscape e = some c) (hx : e ≠ 'x') (hu : e ≠ 'u')
    (hU : e ≠ 'U') (rest : List Char) : unescape (e :: rest) = some (c, rest) := by
  unfold unescape
  split <;> simp_all

theorem unescape_x (n : Nat) (hn : n < 0x80) (rest : List Char) :
    unescape ('x' :: hexDigits 2 n ++ rest) = some (Char.ofNat n, rest) := by
  have h := hexNum_hexDigits 2 n
  rw [Nat.mod_eq_of_lt (show n < 16 ^ 2 by omega)] at h
  simp only [hexDigits, List.nil_append, List.singleton_append, List.append_assoc,
    List.cons_append] at h ⊢
  simp [unescape, h, hn]

theorem unescape_u (n : Nat) (hn : n < 0x10000) (hv : validRune n = true) (rest : List Char) :
    unescape ('u' :: hexDigits 4 n ++ rest) = some (Char.ofNat n, rest) := by
  have h := hexNum_hexDigits 4 n
  rw [Nat.mod_eq_of_lt (show n < 16 ^ 4 by omega)] at h
  simp only [hexDigits, List.nil_append, List.singleton_append, List.append_assoc,
    List.cons_append] at h ⊢
  simp [unescape, h, hv]

theorem unescape_U (n : Nat) (hn : n < 0x110000) (hv : validRune n = true) (rest : List Char) :
    unescape ('U' :: hexDigits 8 n ++ rest) = some (Char.ofNat n, rest) := by
  have h := hexNum_hexDigits 8 n
  rw [Nat.mod_eq_of_lt (show n < 16 ^ 8 by omega)] at h
  simp only [hexDigits, List.nil_append, List.singleton_append, List.append_assoc,
    List.cons_append] at h ⊢
  simp [unescape, h, hv]

theorem unquoteBody_quoteRune (pt : PrintTable) (c : Char) (rest : List Char) :
    unquoteBody (quoteRune pt c ++ rest) = (unquoteBody rest).map (c :: ·) := by
  have hc (n : Nat) (h : c.toNat = n) : c = Char.ofNat n := by rw [← h, Char.ofNat_toNat]
  have hesc {e d : Char} (he : simpleEscape e = some d) (hx : e ≠ 'x') (hu : e ≠ 'u')
      (hU : e ≠ 'U') : unquoteBody ('\\' :: e :: rest) = (unquoteBody rest).map (d :: ·) :=
    unquoteBody_backslash (unescape_simple he hx hu hU rest)
  unfold quoteRune
  by_cases hq : c = '"' ∨ c = '\\'
  · rw [if_pos hq]
    rcases hq with rfl | rfl <;> exact hesc (by decide) (by decide) (by decide) (by decide)
  rw [if_neg hq]
  by_cases hp : pt.isPrint c = true
  · rw [if_pos hp]
    have hn : c ≠ '\n' := fun e => by simp [e, pt.isPrint_control '\n' (by decide)] at hp
    exact unquoteBody_plain (fun h => hq (.inl h)) hn (fun h => hq (.inr h)) rest
  rw [if_neg hp]
  by_cases h7 : c.toNat = 7
  · rw [if_pos h7, hc 7 h7]; exact hesc (by decide) (by decide) (by decide) (by decide)
  rw [if_neg h7]
  by_cases h8 : c.toNat = 8
  · rw [if_pos h8, hc 8 h8]; exact hesc (by decide) (by decide) (by decide) (by decide)
  rw [if_neg h8]
  by_cases h12 : c.toNat = 12
  · rw [if_pos h12, hc 12 h12]; exact hesc (by decide) (by decide) (by decide) (by decide)
  rw [if_neg h12]
  by_cases hn : c = '\n'
  · rw [if_pos hn, hn]; exact hesc (by decide) (by decide) (by decide) (by decide)
  rw [if_neg hn]
  by_cases hr : c = '\r'
  · rw [if_pos hr, hr]; exact hesc (by decide) (by decide) (by decide) (by decide)
  rw [if_neg hr]
  by_cases ht : c = '\t'
  · rw [if_pos ht, ht]; exact hesc (by decide) (by decide) (by decide) (by decide)
  rw [if_neg ht]
  by_cases h11 : c.toNat = 11
  · rw [if_pos h11, hc 11 h11]; exact hesc (by decide) (by decide) (by decide) (by decide)
  rw [if_neg h11]
  have hvalid := c.valid
  simp only [UInt32.isValidChar, Nat.isValidChar] at hvalid
  change c.toNat < 0xD800 ∨ (0xDFFF < c.toNat ∧ c.toNat < 0x110000) at hvalid
  by_cases hx : c.toNat < 0x20 ∨ c.toNat = 0x7F
  · rw [if_pos hx]
    exact (unquoteBody_backslash (unescape_x c.toNat (by omega) rest)).trans
      (by rw [Char.ofNat_toNat])
  rw [if_neg hx]
  by_cases hu : c.toNat < 0x10000
  · rw [if_pos hu]
    exact (unquoteBody_backslash (unescape_u c.toNat hu (validRune_toNat c) rest)).trans
      (by rw [Char.ofNat_toNat])
  rw [if_neg hu]
  exact (unquoteBody_backslash (unescape_U c.toNat (by omega) (validRune_toNat c) rest)).trans
    (by rw [Char.ofNat_toNat])

theorem unquoteBody_quote (pt : PrintTable) (l : List Char) :
    unquoteBody (l.flatMap (quoteRune pt) ++ ['"']) = some l := by
  induction l with
  | nil => simp [unquoteBody]
  | cons c rest ih => rw [List.flatMap_cons, List.append_assoc, unquoteBody_quoteRune, ih]; rfl

/-- Reading back what `strconv.Quote` writes gives the quoted text, whatever the rune table. -/
theorem unquote_quote (pt : PrintTable) (s : String) : unquote (quote pt s) = some s := by
  simp [unquote, quote, unquoteBody_quote]

end Go

end BinapiGenerator
