import TriStore.Text.CharName.Basic
import TriStore.Text.CodePage
import TriStore.Text.Punycode
import TriStore.Text.Switched
import TriStore.Text.Unicode

/-!
The encodings that a text may name, among them one of seven bits and one with escapes. What an encoding
cannot read is replaced by a mark.
-/
namespace TriStore.Text.Utf7

def digit? (b : UInt8) : Option Nat :=
  if 0x41 ≤ b && b ≤ 0x5a then some (b.toNat - 0x41)
  else if 0x61 ≤ b && b ≤ 0x7a then some (b.toNat - 0x61 + 26)
  else if 0x30 ≤ b && b ≤ 0x39 then some (b.toNat - 0x30 + 52)
  else if b == 0x2b then some 62
  else if b == 0x2f then some 63
  else none

/-- Inside base 64: the bits that make no unit yet, their number, and the first half of a pair. -/
structure Shift where
  bits : Nat := 0
  count : Nat := 0
  half : Option Nat := none

def Shift.isComplete (s : Shift) : Bool := s.count < 6 && s.bits == 0

def Shift.take (s : Shift) (n : Nat) : List Char × Shift :=
  let bits := s.bits * 64 + n
  let count := s.count + 6
  if count < 16 then ([], { s with bits, count })
  else
    let unit := bits / Nat.pow 2 (count - 16)
    let left : Shift := { bits := bits % Nat.pow 2 (count - 16), count := count - 16 }
    match s.half with
    | some hi =>
      if isLowHalf unit then (ofPoint (joinHalves hi unit), left)
      else if isHighHalf unit then (ofPoint hi, { left with half := some unit })
      else (ofPoint hi ++ ofPoint unit, left)
    | none =>
      if isHighHalf unit then ([], { left with half := some unit }) else (ofPoint unit, left)

inductive Place where
  | direct
  | opened
  | inside (s : Shift)

def step (p : Place) (b : UInt8) : List Char × Place :=
  match p with
  | .direct =>
    if b == 0x2b then ([], .opened)
    else ([if b < 0x80 then Char.ofNat b.toNat else mark], .direct)
  | .opened =>
    if b == 0x2d then (['+'], .direct)
    else match digit? b with
      | some n => ([], .inside (Shift.take {} n).2)
      | none => ([mark], .direct)
  | .inside s =>
    match digit? b with
    | some n =>
      let (cs, s) := s.take n
      (cs, .inside s)
    | none =>
      if !s.isComplete || 0x80 ≤ b then ([mark], .direct)
      else (ofPoints s.half.toList ++ (if b == 0x2d then [] else [Char.ofNat b.toNat]), .direct)

def finish : Place → List Char
  | .inside s => if s.half.isSome || !s.isComplete then [mark] else []
  | _ => []

def decode (p : Place) : List UInt8 → List Char
  | [] => finish p
  | b :: rest =>
    let (cs, p) := step p b
    cs ++ decode p rest

end TriStore.Text.Utf7

namespace TriStore.Text

namespace Escaped

def named : List (UInt8 × Nat) := [
  (0x5c, 0x5c), (0x27, 0x27), (0x22, 0x22), (0x61, 7), (0x62, 8), (0x74, 9), (0x6e, 10), (0x76, 11),
  (0x66, 12), (0x72, 13)]

def octal? (b : UInt8) : Option Nat := if 0x30 ≤ b && b ≤ 0x37 then some (b.toNat - 0x30) else none

def number (digit? : UInt8 → Option Nat) (base : Nat) : Nat → List UInt8 → Nat × Nat
  | 0, _ => (0, 0)
  | _ + 1, [] => (0, 0)
  | count + 1, b :: rest =>
    match digit? b with
    | none => (0, 0)
    | some d =>
      let (n, used) := number digit? base count rest
      (d * Nat.pow base used + n, used + 1)

def hexDigit? (b : UInt8) : Option Nat := Hex.digit? (Char.ofNat b.toNat)

def coded (count : Nat) (bs : List UInt8) : List Char × Nat :=
  let (n, used) := number hexDigit? 16 count bs
  (if used == count && n < 0x110000 then ofPoint n else [mark], used)

def digitCounts : List (UInt8 × Nat) := [(0x78, 2), (0x75, 4), (0x55, 8)]

def byName (bs : List UInt8) : List Char × Nat :=
  match bs with
  | 0x7b :: rest =>
    let name := rest.takeWhile (· != 0x7d)
    if name.isEmpty then ([mark], 1)
    else if name.length == rest.length then ([mark], 1 + name.length)
    else
      let point := CharName.find? (String.ofList (name.map fun b => Char.ofNat b.toNat))
      (point.elim [mark] ofPoint, 2 + name.length)
  | _ => ([mark], 0)

def afterBackslash (b : UInt8) (rest : List UInt8) : List Char × Nat :=
  match named.lookup b, digitCounts.lookup b with
  | some n, _ => ([Char.ofNat n], 1)
  | _, some count =>
    let (cs, used) := coded count rest
    (cs, used + 1)
  | none, none =>
    if b == 0x0a then ([], 1)
    else if (octal? b).isSome then
      let (n, used) := number octal? 8 3 (b :: rest)
      ([Char.ofNat n], used)
    else if b == 0x4e then
      let (cs, used) := byName rest
      (cs, used + 1)
    else (['\\', Char.ofNat b.toNat], 1)

def afterBackslashPlain (b : UInt8) (rest : List UInt8) : List Char × Nat :=
  if b == 0x75 || b == 0x55 then
    let (cs, used) := coded (if b == 0x75 then 4 else 8) rest
    (cs, used + 1)
  else (['\\', Char.ofNat b.toNat], 1)

/-- The characters of the bytes; where `plain` holds, only numbers are escapes. -/
def decode (plain : Bool) : Nat → List UInt8 → List Char
  | 0, _ => []
  | _ + 1, [] => []
  | fuel + 1, a :: rest =>
    if a != 0x5c then Char.ofNat a.toNat :: decode plain fuel rest
    else match rest with
      | [] => if plain then ['\\'] else [mark]
      | b :: more =>
        let (cs, used) := if plain then afterBackslashPlain b more else afterBackslash b more
        cs ++ decode plain fuel (rest.drop used)

end Escaped

inductive Refusal where
  | takesTexts
  | replacesNothing
  | readsNothing
  deriving DecidableEq, Repr, Inhabited

inductive Charset where
  | utf8
  | markedUtf8
  | utf7
  | ascii
  | latin1
  | page (p : CodePage)
  /-- Units of several bytes; the byte order is given, or a mark at the front tells it. -/
  | wide (size : UnitSize) (order : Option ByteOrder)
  | multi (e : MultiByte)
  | switched (e : Switched)
  | tildes
  /-- Escapes after backslashes, all of them or only numbers. -/
  | escaped (plain : Bool)
  | punycode
  | refused (e : Refusal)
  deriving DecidableEq, Repr, Inhabited

namespace Charset

def labels : List (Charset × String) := [
  (.utf8, "utf_8 cp65001 u8 utf utf8 utf8_ucs2 utf8_ucs4"),
  (.markedUtf8, "utf_8_sig"),
  (.utf7, "utf_7 u7 unicode_1_1_utf_7 utf7"),
  (.ascii, "ascii 646 ansi_x3.4_1968 ansi_x3.4_1986 ansi_x3_4_1968 cp367 csascii ibm367 " ++
    "iso646_us iso_646.irv_1991 iso_ir_6 us us_ascii"),
  (.latin1, "latin_1 8859 cp819 csisolatin1 ibm819 iso8859 iso8859_1 iso_8859_1 " ++
    "iso_8859_1_1987 iso_ir_100 l1 latin latin1"),
  (.latin1, "charmap"),
  (.wide .two none, "utf_16 u16 utf16"),
  (.wide .two (some .little), "utf_16_le unicodelittleunmarked utf_16le"),
  (.wide .two (some .big), "utf_16_be unicodebigunmarked utf_16be"),
  (.wide .four none, "utf_32 u32 utf32"),
  (.wide .four (some .little), "utf_32_le utf_32le"),
  (.wide .four (some .big), "utf_32_be utf_32be"),
  (.multi .shiftJis, "shift_jis csshiftjis s_jis shiftjis sjis x_mac_japanese"),
  (.multi (.shiftJisLater .second), "shift_jis_2004 s_jis_2004 shiftjis2004 sjis_2004"),
  (.multi (.shiftJisLater .first), "shift_jisx0213 s_jisx0213 shiftjisx0213 sjisx0213"),
  (.multi .windowsJapanese, "cp932 932 ms932 ms_kanji mskanji"),
  (.multi .eucJapanese, "euc_jp eucjp u_jis ujis"),
  (.multi (.eucJapaneseLater .second), "euc_jis_2004 euc_jis2004 eucjis2004 jisx0213"),
  (.multi (.eucJapaneseLater .first), "euc_jisx0213 eucjisx0213"),
  (.multi .gb2312, "gb2312 chinese csiso58gb231280 euc_cn euccn eucgb2312_cn gb2312_1980 " ++
    "gb2312_80 iso_ir_58 x_mac_simp_chinese"),
  (.multi .gbk, "gbk 936 cp936 ms936"),
  (.multi .gb18030, "gb18030 gb18030_2000"),
  (.multi .big5, "big5 big5_tw csbig5 x_mac_trad_chinese"),
  (.multi .windowsTraditional, "cp950 950 ms950"),
  (.multi .hongKong, "big5hkscs big5_hkscs hkscs"),
  (.multi .eucKorean, "euc_kr euckr korean ks_c_5601 ks_c_5601_1987 ks_x_1001 ksc5601 ksx1001 " ++
    "x_mac_korean"),
  (.multi .windowsKorean, "cp949 949 ms949 uhc"),
  (.multi .letteredKorean, "johab cp1361 ms1361"),
  (.switched .japanese, "iso2022_jp csiso2022jp iso2022jp iso_2022_jp"),
  (.switched .japaneseOne, "iso2022_jp_1 iso2022jp_1 iso_2022_jp_1"),
  (.switched .japaneseTwo, "iso2022_jp_2 iso2022jp_2 iso_2022_jp_2"),
  (.switched (.japaneseLater .first), "iso2022_jp_3 iso2022jp_3 iso_2022_jp_3"),
  (.switched (.japaneseLater .second), "iso2022_jp_2004 iso2022jp_2004 iso_2022_jp_2004"),
  (.switched .japaneseMore, "iso2022_jp_ext iso2022jp_ext iso_2022_jp_ext"),
  (.switched .korean, "iso2022_kr csiso2022kr iso2022kr iso_2022_kr"),
  (.tildes, "hz hz_gb hz_gb_2312 hzgb"),
  (.escaped false, "unicode_escape"),
  (.escaped true, "raw_unicode_escape"),
  (.punycode, "punycode"),
  (.refused .takesTexts, "rot_13 rot13"),
  (.refused .replacesNothing, "base64_codec base64 base_64"),
  (.refused .replacesNothing, "bz2_codec bz2"),
  (.refused .replacesNothing, "hex_codec hex"),
  (.refused .replacesNothing, "quopri_codec quopri quoted_printable quotedprintable"),
  (.refused .replacesNothing, "uu_codec uu"),
  (.refused .replacesNothing, "zlib_codec zip zlib"),
  (.refused .readsNothing, "idna"),
  (.refused .readsNothing, "undefined")]

/-- A label in its plain form: in lower case, and with one line between its parts. -/
def plainLabel (s : String) : String :=
  let isPart (c : Char) : Bool := (c.toNat < 128 && c.isAlphanum) || c == '.'
  join "_" ((words (!isPart ·) s.toList).map fun w => String.ofList (w.map Char.toLower))

def find? (among : List (List Char) → List (List Char)) (label : String) : Option Charset :=
  let has (all : String) : Bool := (among (words (· == ' ') all.toList)).contains label.toList
  ((labels.find? fun l => has l.2).map (·.1)).or
    ((CodePage.find? has).map .page)

/-- The encoding with a label, in which a dot may stand for a line unless it is the own name. -/
def ofLabel? (s : String) : Option Charset :=
  let label := plainLabel s
  (find? id label).or (find? (List.drop 1) (label.map fun c => if c == '.' then '_' else c))

def ofLabel (s : String) : Except Failure (Option Charset) :=
  if s.contains '\x00' then .error .nulInLabel else .ok (ofLabel? s)

def decode (c : Charset) (bs : ByteArray) : Except Failure String :=
  match c with
  | .utf8 => .ok (Utf8.decodeLossy bs)
  | .markedUtf8 =>
    match bs.toList with
    | [0xef] | [0xef, 0xbb] => .ok ""
    | 0xef :: 0xbb :: 0xbf :: rest => .ok (Utf8.decodeLossy ⟨rest.toArray⟩)
    | _ => .ok (Utf8.decodeLossy bs)
  | .utf7 => .ok (String.ofList (Utf7.decode .direct bs.toList))
  | .ascii =>
    .ok (String.ofList (bs.toList.map fun b => if b < 0x80 then Char.ofNat b.toNat else mark))
  | .latin1 => .ok (String.ofList (bs.toList.map fun b => Char.ofNat b.toNat))
  | .page p => .ok (String.ofList (p.decode bs.toList))
  | .multi e => .ok (String.ofList (e.decode bs.size bs.toList))
  | .wide size (some order) => .ok (ofCodes (Wide.lossy size order bs.size bs.toList))
  | .wide size none =>
    match Wide.orderIn? size bs.toList with
    | some order =>
      .ok (ofCodes (Wide.lossy size order bs.size (bs.toList.drop size.bytes)))
    | none =>
      if bs.size == 0 then .ok ""
      else if bs.size < size.bytes then .ok (String.ofList [mark])
      else .error .unreadable
  | .switched e => (e.decode (bs.size + 1) {} bs.toList).map String.ofList
  | .tildes => .ok (String.ofList (tildeChinese false (bs.size + 1) bs.toList))
  | .escaped plain => .ok (String.ofList (Escaped.decode plain (bs.size + 1) bs.toList))
  | .punycode =>
    match Punycode.decode bs.toList with
    | .ok cs => .ok (String.ofList cs)
    | .error e => .error (.undecodable e)
  | .refused .takesTexts => .error .wrongKind
  | .refused .replacesNothing => .error .irreplaceable
  | .refused .readsNothing => .error .unreadable

def decodeAll? (c : Charset) (bs : ByteArray) : Option String :=
  match c with
  | .punycode =>
    if bs.toList.all (· < 0x80) then
      (Punycode.read? (bs.toList.map fun b => Char.ofNat b.toNat)).map String.ofList
    else none
  | c =>
    match c.decode bs with
    | .ok s => if s.contains mark then none else some s
    | .error _ => none

end Charset

end TriStore.Text
