import TriStore.Text.Basic

/-!
Lower case of a text. Every letter has its own; the capital sigma has two, and takes the final one at
the end of a word, which letters with case and marks that are passed over decide.
-/
namespace TriStore.Text

/-- The numbers that digits of base sixteen write, the last digit first: three bits a digit, and eight more
while a number goes on. -/
def numbersIn : Nat → Nat → Nat → Nat → List Nat
  | 0, _, _, _ => []
  | fuel + 1, digits, scale, sum =>
    if digits == 0 then []
    else if digits % 16 < 8 then (sum + scale * (digits % 16)) :: numbersIn fuel (digits / 16) 1 0
    else numbersIn fuel (digits / 16) (8 * scale) (sum + scale * (digits % 16 - 8))

def numbersOf (rows : List Nat) : List Nat := rows.flatMap (numbersIn 108 · 1 0)

def casedBands : List (Nat × Nat) := bandsFrom 0 (numbersOf [
  0x8521ad1ac8225a205014d5caf58194d12cd1829a11aa12b101210601231233883a139f43138a13e12e50401a05f39639189,
  0x8044532045131010106430119204048d61251c45233612301616c23e101010172524d2524ad1cd4911c7f5b188225a7184a8a,
  0x8639289941c64fd8819f71855a1ced0313b4101157a1332e119d28e3b2a5d7ccaa05014d1c13361ce21fb3cae6b1ce9133f29,
  0x81617231188161011b13212021118e11ac6ae887f5adc87f5edd6a1d6a3b8b11611e11a111611e11a1ec4b44b1c819f2acd39,
  0x8396396393fdc18b4fc92b1193cec713813e13813e13813e13813e13813825ab1630141313b])

/-- Bands of the marks that do not end a word, such as apostrophes and combining accents. -/
def passedOverBands : List (Nat × Nat) := bandsFrom 0 (numbersOf [
  0x83e010493119171cd0282c1a04b011a1a51b05c011111015c6905039f63fb0111904142ff7ef12040104018f0104b01b0604f,
  0x812c04114407911b0313e032214140791203a12c0183407a01f01d11a6304740106f7959761705c25b2f3802041a7a1a1bb3a,
  0x81ca181b6201ba0127019803d12c0183417913c12c15060207a03d11b1731252106f0306a01c07d03e11b17018310207a0152e,
  0x831a201861118813e13e13d21eea219c801be01f061201d3282413912115131ce0194b11a511411d6f010103b119a510191820,
  0x851881277a210311078211234811c18580501410683693e1804f021967201016107a0213bb260191421ee04a118906b45d050,
  0x805f3f1c801f01fd21e915e9b486b1c2801d01191469420201a11841c11d21d21d21b2106fd1cc4a01d7e6a130604611c121aa,
  0x825e1a3974e01d293a12af0513904030181321cf22f019e491e11a833c0119131ca049e52bca06fcae21bd51bd054334c07ad,
  0x802d90204a1f1c031f18fd282ab04fce8040201f921941cc011511e03b0115122106b01b04b01801c1212518a12d0291232068,
  0x821a120591e6e01fb3691a2b9168b318fd12cd0425835112198e1815915288d42ad03ca0188922d018b15d05f0104b01b0607,
  0x8271ad13b111633de11140151ac02f0122738b4364d0317912d7302c806110221bf0231a186c11c07e7144c26a01a040212369,
  0x81980161110351fa1111622d1aa015166ae111c5e22519018325581948041232a804011488111848b413221cd01520101da110,
  0x80186946e3efb22ac33e621f19218c82e25d199bc3116abe116134889b111188287f0289b31967b43baef181acfb15bb01031,
  0x83df2881bf3e0388e88945adf71dd62fc837d05e81d48d41116228162da81e142e01e])

def isCased (c : Char) : Bool := inBands casedBands c.toNat

def isPassedOver (c : Char) : Bool := inBands passedOverBands c.toNat

/-- The letters `lo`, `lo + step`, up to `hi`, each lying `shift` before its lower case. -/
structure LetterBand where
  lo : Nat
  hi : Nat
  step : Nat
  shift : Int

/-- The bands that steps tell: how many numbers are left out, how many letters follow the first one, how far
apart, and the shift, twice as far ahead or one less back. -/
def letterBandsFrom (start : Nat) : List Nat → List LetterBand
  | gap :: more :: step :: shift :: rest =>
    let lo := start + gap
    let hi := lo + more * step
    ⟨lo, hi, step, if shift % 2 == 0 then shift / 2 else -(shift / 2 + 1 : Int)⟩ :: letterBandsFrom (hi + 1) rest
  | _ => []

def lowerBands : List LetterBand := letterBandsFrom 0 (numbersOf [
  0x86ae1006ac1002be10221006ba11121006bc10122106cc10322203e9101222e222722223222f4918816118812e1cd188139189,
  0x806ee10122106ea11121006ec10121026ec10121006ec10122206dc1016da1006ce10321006ca1006ce1016be1006ba1012100,
  0x8025a9a810058d10121005a9ae1072218148b101222b01df100389101221041022218222180410121004101210041072103210,
  0x821021ef105221b1828104b188118118812811fe11128810119a12119c1063d8101821032214c9224029e10029a10068d10121,
  0x8119f1baa3cb881053cb881013cb8814d5d991c814d2225f222603e101223a1922286818813f02c811f048b12221001d101,
  0x81f17381f17181f231b1f15181f17181f171a1f15181f1719225f13ddfd10192219a5881bdff1221bdff15a4aba281502afec8,
  0x81033daf9104d9291003fb1103ff111b1d1003bf1101f111c38f1101f111b291002db131b291002ab1101f11181f17181f1718,
  0x810059ff91005a8ef101222259f9d1001ef9b10059fdd101210681c815f3ce86c1391cea2102b4811f5d7810648a9b10048dfd,
  0x82cd99f1012104224029a88f1012211a223e322628f221d2b222e7cd9d210422118226905a9fd1118210221015a8fb1005a8fd,
  0x81001bf10122703d881002cd8d91002cd9ab1002cd8cb1012cda8f1002cda891002cdaad1002cdabd1002cda8f101221932212,
  0x828816a3bda19e11119e16119e11e119e11a2bc1a814b2981a814f2b8d1881395bcdb2103c22152106221029a9df1002cda8d,
  0x818c1497dac818813f5ae8818813f5fdd])

def lowerShift : List LetterBand → Nat → Int
  | [], _ => 0
  | b :: rest, n =>
    if n < b.lo then 0
    else if n ≤ b.hi then (if (n - b.lo) % b.step == 0 then b.shift else 0)
    else lowerShift rest n

/-- The lower case of one character taken alone. -/
def lowerChar (c : Char) : List Char :=
  if c.toNat == 0x130 then ['i', Char.ofNat 0x307]
  else [Char.ofNat (c.toNat + lowerShift lowerBands c.toNat).toNat]

def casedFollows : List Char → Bool
  | [] => false
  | c :: cs => if isPassedOver c then casedFollows cs else isCased c

/-- Lower case, given whether the last character that is not passed over has case. -/
def lowerAfter (afterCased : Bool) : List Char → List Char
  | [] => []
  | c :: cs =>
    (if c == 'Σ' then [if afterCased && !casedFollows cs then 'ς' else 'σ'] else lowerChar c) ++
      lowerAfter (if isPassedOver c then afterCased else isCased c) cs

def lowerChars (cs : List Char) : List Char := lowerAfter false cs

def lower (s : String) : String := String.ofList (lowerChars s.toList)

end TriStore.Text
