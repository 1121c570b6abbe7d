/-!
# Letters up to case

When a pattern ignores case, two characters count as the same if they have one small letter, or if
their small letters have one capital. Small letters are given by runs of capitals, each run with
the distance from its capitals to their small letters; the few sets of small letters that share a
capital are listed. The capital of a letter is the first one with that small letter, except for the
letters that have another capital, or several of which the first is taken. The tables are those of
Unicode 14.
-/

namespace TextProtocol.Text

/-- Letters `first`, `first + step`, ..., `last`, each at `distance` from its letter of the other
case. -/
structure CaseRun where
  first : Nat
  last : Nat
  step : Nat
  distance : Int

namespace CaseRun

def has (r : CaseRun) (n : Nat) : Bool :=
  r.first ≤ n && n ≤ r.last && (n - r.first) % r.step == 0

def other (r : CaseRun) (n : Nat) : Nat :=
  ((n : Int) + r.distance).toNat

/-- The run that is written with its first and last letter and the other letter of its first. Only
every other letter belongs to it if there is a colon between the two, and only one if there is no
last letter. -/
def ofChars? : List Char → Option CaseRun
  | [c, other] => some ⟨c.toNat, c.toNat, 1, (other.toNat : Int) - c.toNat⟩
  | [c, last, other] => some ⟨c.toNat, last.toNat, 1, (other.toNat : Int) - c.toNat⟩
  | [c, ':', last, other] => some ⟨c.toNat, last.toNat, 2, (other.toNat : Int) - c.toNat⟩
  | _ => none

def ofText (text : String) : List CaseRun :=
  (text.splitOn "\n").flatMap fun line ↦ (line.splitOn " ").filterMap (ofChars? ·.toList)

end CaseRun

def capitalRuns : List CaseRun := CaseRun.ofText "
  AZa ÀÖà ØÞø Ā:Įā İi Ĳ:Ķĳ Ĺ:Ňĺ Ŋ:Ŷŋ Ÿÿ Ź:Žź Ɓɓ Ƃ:Ƅƃ Ɔɔ Ƈƈ ƉƊɖ Ƌƌ Ǝǝ Əə Ɛɛ Ƒƒ Ɠɠ Ɣɣ Ɩɩ Ɨɨ Ƙƙ Ɯɯ Ɲɲ
  Ɵɵ Ơ:Ƥơ Ʀʀ Ƨƨ Ʃʃ Ƭƭ Ʈʈ Ưư ƱƲʊ Ƴ:Ƶƴ Ʒʒ Ƹƹ Ƽƽ Ǆǆ ǅǆ Ǉǉ ǈǉ Ǌǌ ǋ:Ǜǌ Ǟ:Ǯǟ Ǳǳ ǲ:Ǵǳ Ƕƕ Ƿƿ Ǹ:Ȟǹ Ƞƞ Ȣ:Ȳȣ
  Ⱥⱥ Ȼȼ Ƚƚ Ⱦⱦ Ɂɂ Ƀƀ Ʉʉ Ʌʌ Ɇ:Ɏɇ Ͱ:Ͳͱ Ͷͷ Ϳϳ Άά ΈΊέ Όό ΎΏύ ΑΡα ΣΫσ Ϗϗ Ϙ:Ϯϙ ϴθ Ϸϸ Ϲϲ Ϻϻ ϽϿͻ ЀЏѐ АЯа
  Ѡ:Ҁѡ Ҋ:Ҿҋ Ӏӏ Ӂ:Ӎӂ Ӑ:Ԯӑ ԱՖա ႠჅⴀ Ⴧⴧ Ⴭⴭ ᎠᏯꭰ ᏰᏵᏸ ᲐᲺა ᲽᲿჽ Ḁ:Ẕḁ ẞß Ạ:Ỿạ ἈἏἀ ἘἝἐ ἨἯἠ ἸἿἰ ὈὍὀ Ὑ:Ὗὑ ὨὯὠ
  ᾈᾏᾀ ᾘᾟᾐ ᾨᾯᾠ ᾸᾹᾰ ᾺΆὰ ᾼᾳ ῈΉὲ ῌῃ ῘῙῐ ῚΊὶ ῨῩῠ ῪΎὺ Ῥῥ ῸΌὸ ῺΏὼ ῼῳ Ωω Kk Åå Ⅎⅎ ⅠⅯⅰ Ↄↄ ⒶⓏⓐ ⰀⰯⰰ Ⱡⱡ Ɫɫ Ᵽᵽ
  Ɽɽ Ⱨ:Ⱬⱨ Ɑɑ Ɱɱ Ɐɐ Ɒɒ Ⱳⱳ Ⱶⱶ ⱾⱿȿ Ⲁ:Ⳣⲁ Ⳬ:Ⳮⳬ Ⳳⳳ Ꙁ:Ꙭꙁ Ꚁ:Ꚛꚁ Ꜣ:Ꜯꜣ Ꜳ:Ꝯꜳ Ꝺ:Ꝼꝺ Ᵹᵹ Ꝿ:Ꞇꝿ Ꞌꞌ Ɥɥ Ꞑ:Ꞓꞑ Ꞗ:Ꞩꞗ Ɦɦ
  Ɜɜ Ɡɡ Ɬɬ Ɪɪ Ʞʞ Ʇʇ Ʝʝ Ꭓꭓ Ꞵ:Ꟃꞵ Ꞔꞔ Ʂʂ Ᶎᶎ Ꟈ:Ꟊꟈ Ꟑꟑ Ꟗ:Ꟙꟗ Ꟶꟶ ＡＺａ 𐐀𐐧𐐨 𐒰𐓓𐓘 𐕰𐕺𐖗 𐕼𐖊𐖣 𐖌𐖒𐖳 𐖔𐖕𐖻 𐲀𐲲𐳀 𑢠𑢿𑣀 𖹀𖹟𖹠
  𞤀𞤡𞤢"

def sharedCapitals : List (List Nat) :=
  "iı sſ µμ ͅιι ΐΐ ΰΰ βϐ εϵ θϑ κϰ πϖ ρϱ ςσ φϕ вᲀ дᲁ оᲂ сᲃ тᲄᲅ ъᲆ ѣᲇ ᲈꙋ ṡẛ ﬅﬆ".splitOn " " |>.map
    (·.toList.map Char.toNat)

/-- The letters whose capital is not the first one with that small letter, with the way to their
capital. -/
def otherCapitals : List CaseRun := CaseRun.ofText "
  µΜ ßS ıI ŉʼ ſS ǅǄ ǈǇ ǋǊ ǰJ ǲǱ ͅΙ ΐΙ ΰΥ ςΣ ϐΒ ϑΘ ϕΦ ϖΠ ϰΚ ϱΡ ϵΕ ևԵ ᲀВ ᲁД ᲂО ᲃᲄС ᲅТ ᲆЪ ᲇѢ ᲈꙊ ẖH ẗT
  ẘW ẙY ẚA ẛṠ ὐΥ ὒΥ ὔΥ ὖΥ ᾀᾇἈ ᾈᾏἈ ᾐᾗἨ ᾘᾟἨ ᾠᾧὨ ᾨᾯὨ ᾲᾺ ᾳΑ ᾴΆ ᾶΑ ᾷΑ ᾼΑ ιΙ ῂῊ ῃΗ ῄΉ ῆΗ ῇΗ ῌΗ ῒΙ ΐΙ ῖΙ
  ῗΙ ῢΥ ΰΥ ῤΡ ῦΥ ῧΥ ῲῺ ῳΩ ῴΏ ῶΩ ῷΩ ῼΩ ﬀF ﬁF ﬂF ﬃF ﬄF ﬅS ﬆS ﬓՄ ﬔՄ ﬕՄ ﬖՎ ﬗՄ"

/-- The small letter of a code point, or the code point itself. -/
def smallLetter (n : Nat) : Nat :=
  match capitalRuns.find? (·.has n) with
  | some r => r.other n
  | none => n

/-- A text in small letters. The dotted capital I keeps its dot. -/
def lowered (text : String) : String :=
  String.ofList (text.toList.flatMap fun c ↦
    if c == '\u0130' then ['i', '\u0307'] else [Char.ofNat (smallLetter c.toNat)])

/-- The small letters that share a capital with the small letter `l`, itself included. -/
def relatedSmall (l : Nat) : List Nat :=
  (sharedCapitals.find? (·.contains l)).getD [l]

def capitalsOf (l : Nat) : List Nat :=
  capitalRuns.filterMap fun r ↦
    let n := ((l : Int) - r.distance).toNat
    if r.has n then some n else none

/-- The capital of a code point, or the code point itself. -/
def capital (n : Nat) : Nat :=
  match otherCapitals.find? (·.has n) with
  | some r => r.other n
  | none => (capitalsOf n).head?.getD n

/-- The code points whose small letter is `l` or shares a capital with it. -/
def caseVariants (l : Nat) : List Nat :=
  (relatedSmall l).flatMap fun m ↦ if smallLetter m == m then m :: capitalsOf m else capitalsOf m

def asciiSmallLetter (n : Nat) : Nat :=
  if 65 ≤ n && n ≤ 90 then n + 32 else n

/-- The code points whose small letter, up to ASCII, is `l`. -/
def asciiCaseVariants (l : Nat) : List Nat :=
  if 97 ≤ l && l ≤ 122 then [l, l - 32]
  else if 65 ≤ l && l ≤ 90 then []
  else [l]

end TextProtocol.Text
