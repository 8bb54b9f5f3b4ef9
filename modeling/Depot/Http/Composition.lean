import Depot.Http.Marks

/-!
Composition (NFC) of the characters of host names: of the ways in which a letter with marks can be
written it keeps the one in which the marks are in the order of their classes, and as much as
possible is written as one character.
-/

namespace Depot.Http.Composition

/-! ## Pairs that make one character -/

/-- The pairs by their second character. Behind the first character of each stands what they
make. -/
def composites : List (Nat × String) :=
  [(0x300, "aà eè iì oò uù üǜ nǹ еѐ иѝ ēḕ ōṑ wẁ âầ ăằ êề ôồ ơờ ưừ yỳ ἀἂ ἁἃ ἐἒ ἑἓ ἠἢ ἡἣ ἰἲ ἱἳ ὀὂ"),
   (0x300, "ὁὃ ὐὒ ὑὓ ὠὢ ὡὣ αὰ εὲ ηὴ ιὶ οὸ υὺ ωὼ ϊῒ ϋῢ"),
   (0x301, "aá eé ií oó uú yý cć lĺ nń rŕ sś zź üǘ gǵ åǻ æǽ øǿ ϊΐ αά εέ ηή ιί ϋΰ οό υύ ωώ гѓ кќ"),
   (0x301, "çḉ ēḗ ïḯ kḱ mḿ õṍ ōṓ pṕ ũṹ wẃ âấ ăắ êế ôố ơớ ưứ ἀἄ ἁἅ ἐἔ ἑἕ ἠἤ ἡἥ ἰἴ ἱἵ ὀὄ ὁὅ ὐὔ ὑὕ"),
   (0x301, "ὠὤ ὡὥ"), (0x302, "aâ eê iî oô uû cĉ gĝ hĥ jĵ sŝ wŵ yŷ zẑ ạậ ẹệ ọộ"),
   (0x303, "aã nñ oõ iĩ uũ vṽ âẫ ăẵ eẽ êễ ôỗ ơỡ ưữ yỹ"),
   (0x304, "aā eē iī oō uū üǖ äǟ ȧǡ æǣ ǫǭ öȫ õȭ ȯȱ yȳ иӣ уӯ gḡ ḷḹ ṛṝ αᾱ ιῑ υῡ"),
   (0x306, "aă eĕ gğ iĭ oŏ uŭ ий уў жӂ аӑ еӗ ȩḝ ạặ αᾰ ιῐ υῠ"),
   (0x307, "cċ eė gġ zż aȧ oȯ bḃ dḋ fḟ hḣ mṁ nṅ pṗ rṙ sṡ śṥ šṧ ṣṩ tṫ wẇ xẋ yẏ 𐗒𐗉 𐗚𐗤"),
   (0x308, "aä eë iï oö uü yÿ ιϊ υϋ её ії аӓ әӛ жӝ зӟ иӥ оӧ өӫ эӭ уӱ чӵ ыӹ hḧ õṏ ūṻ wẅ xẍ tẗ"),
   (0x309, "aả âẩ ăẳ eẻ êể iỉ oỏ ôổ ơở uủ ưử yỷ"), (0x30A, "aå uů wẘ yẙ"), (0x30B, "oő uű уӳ"),
   (0x30C, "cč dď eě lľ nň rř sš tť zž aǎ iǐ oǒ uǔ üǚ gǧ kǩ ʒǯ jǰ hȟ"),
   (0x30F, "aȁ eȅ iȉ oȍ rȑ uȕ ѵѷ"), (0x311, "aȃ eȇ iȋ oȏ rȓ uȗ"),
   (0x313, "αἀ εἐ ηἠ ιἰ οὀ υὐ ωὠ ρῤ"), (0x314, "αἁ εἑ ηἡ ιἱ οὁ υὑ ωὡ ρῥ"), (0x31B, "oơ uư"),
   (0x323, "bḅ dḍ hḥ kḳ lḷ mṃ nṇ rṛ sṣ tṭ vṿ wẉ zẓ aạ eẹ iị oọ ơợ uụ ưự yỵ"), (0x324, "uṳ"),
   (0x325, "aḁ"), (0x326, "sș tț"), (0x327, "cç gģ kķ lļ nņ rŗ sş tţ eȩ dḑ hḩ"),
   (0x328, "aą eę iį uų oǫ"), (0x32D, "dḓ eḙ lḽ nṋ tṱ uṷ"), (0x32E, "hḫ"), (0x330, "eḛ iḭ uṵ"),
   (0x331, "bḇ dḏ kḵ lḻ nṉ rṟ tṯ zẕ hẖ"),
   (0x338, "←↚ →↛ ↔↮ ⇐⇍ ⇔⇎ ⇒⇏ ∃∄ ∈∉ ∋∌ ∣∤ ∥∦ ∼≁ ≃≄ ≅≇ ≈≉ =≠ ≡≢ ≍≭ <≮ >≯ ≤≰ ≥≱ ≲≴ ≳≵ ≶≸ ≷≹ ≺⊀ ≻⊁"),
   (0x338, "⊂⊄ ⊃⊅ ⊆⊈ ⊇⊉ ⊢⊬ ⊨⊭ ⊩⊮ ⊫⊯ ≼⋠ ≽⋡ ⊑⋢ ⊒⋣ ⊲⋪ ⊳⋫ ⊴⋬ ⊵⋭"),
   (0x342, "ἀἆ ἁἇ ἠἦ ἡἧ ἰἶ ἱἷ ὐὖ ὑὗ ὠὦ ὡὧ αᾶ ηῆ ιῖ ϊῗ υῦ ϋῧ ωῶ"), (0x653, "اآ"),
   (0x654, "اأ وؤ يئ ەۀ ہۂ ےۓ"), (0x655, "اإ"), (0x93C, "नऩ रऱ ळऴ"), (0x9BE, "\u09c7\u09cb"),
   (0x9D7, "\u09c7\u09cc"), (0xB3E, "\u0b47\u0b4b"), (0xB56, "\u0b47\u0b48"),
   (0xB57, "\u0b47\u0b4c"), (0xBBE, "\u0bc6\u0bca \u0bc7\u0bcb"), (0xBD7, "ஒஔ \u0bc6\u0bcc"),
   (0xC56, "\u0c46\u0c48"), (0xCC2, "\u0cc6\u0cca"),
   (0xCD5, "\u0cbf\u0cc0 \u0cc6\u0cc7 \u0cca\u0ccb"), (0xCD6, "\u0cc6\u0cc8"),
   (0xD3E, "\u0d46\u0d4a \u0d47\u0d4b"), (0xD57, "\u0d46\u0d4c"),
   (0xDCA, "\u0dd9\u0dda \u0ddc\u0ddd"), (0xDCF, "\u0dd9\u0ddc"), (0xDDF, "\u0dd9\u0dde"),
   (0x102E, "ဥဦ"),
   (0x1B35, "ᬅᬆ ᬇᬈ ᬉᬊ ᬋᬌ ᬍᬎ ᬑᬒ \u1b3a\u1b3b \u1b3c\u1b3d \u1b3e\u1b40 \u1b3f\u1b41 \u1b42\u1b43"),
   (0x3099, "かが きぎ くぐ けげ こご さざ しじ すず せぜ そぞ ただ ちぢ つづ てで とど はば ひび ふぶ へべ ほぼ うゔ ゝゞ カガ キギ クグ ケゲ コゴ サザ"),
   (0x3099, "シジ スズ セゼ ソゾ タダ チヂ ツヅ テデ トド ハバ ヒビ フブ ヘベ ホボ ウヴ ワヷ ヰヸ ヱヹ ヲヺ ヽヾ"),
   (0x309A, "はぱ ひぴ ふぷ へぺ ほぽ ハパ ヒピ フプ ヘペ ホポ"), (0x110BA, "𑂙𑂚 𑂛𑂜 𑂥𑂫"), (0x11127, "𑄱𑄮 𑄲𑄯"),
   (0x1133E, "𑍇𑍋"), (0x11357, "𑍇𑍌"), (0x113B8, "𑏅𑎸"), (0x113BB, "𑎄𑎅"), (0x113C2, "𑎋𑎎 𑏅𑏂"),
   (0x113C9, "𑎂𑎃 𑎐𑎑 𑏅𑏉"), (0x114B0, "𑒹𑒼"), (0x114BA, "𑒹𑒻"), (0x114BD, "𑒹𑒾"), (0x115AF, "𑖸𑖺 𑖹𑖻"),
   (0x11930, "𑤵𑤸"), (0x1611E, "𖄡𖄞"), (0x1611F, "𖄦 𖄩𖄤 𖄡𖄦 𖄢𖄧"), (0x16120, "𖄨 𖄡𖄨"), (0x16129, "𖄡𖄩"),
   (0x16D67, "𖵨𖵧 𖵣𖵩 𖵩𖵪")]

/-- The pairs with a second character that are written with blanks between them, and what each pair
makes. -/
def pairsOf (second : Char) (row : String) : List ((Char × Char) × Char) :=
  (Text.pieces ' ' row.toList).filterMap fun
    | [first, composite] => some ((first, second), composite)
    | _ => none

def composed : List ((Char × Char) × Char) :=
  composites.flatMap fun (second, row) => pairsOf (Char.ofNat second) row

/-- The syllable of the Korean alphabet that two characters make: a consonant and a vowel, or both
and a consonant at the end. -/
def syllable? (first second : Char) : Option Char :=
  let first := first.toNat
  let second := second.toNat
  if 0x1100 ≤ first ∧ first < 0x1113 ∧ 0x1161 ≤ second ∧ second < 0x1176 then
    some (Char.ofNat (0xAC00 + ((first - 0x1100) * 21 + (second - 0x1161)) * 28))
  else if 0xAC00 ≤ first ∧ first < 0xD7A4 ∧ (first - 0xAC00) % 28 = 0 ∧
      0x11A8 ≤ second ∧ second < 0x11C3 then
    some (Char.ofNat (first + (second - 0x11A7)))
  else none

def composite? (first second : Char) : Option Char :=
  (composed.lookup (first, second)).or (syllable? first second)

/-- The two characters that make a character. Syllables need not be taken apart, because no mark
goes between their parts. -/
def parts? (composite : Char) : Option (Char × Char) :=
  (composed.find? (·.2 == composite)).map Prod.fst

/-! ## Taking apart, putting in order, and putting together -/

/-- A character without the marks that were put on it, and these behind it. The pairs are nested no
deeper than three times. -/
def separated : (depth : Nat) → Char → List Char
  | 0, character => [character]
  | depth + 1, character =>
      match parts? character with
      | some (first, second) => separated depth first ++ [second]
      | none => [character]

/-- A character with its class, and the number of the letter that it belongs to. -/
structure Placed where
  character : Char
  place : Nat
  order : Nat

/-- Whether a character comes before another one, or may. -/
def Placed.precedes (left right : Placed) : Bool :=
  left.place < right.place || (left.place == right.place && left.order ≤ right.order)

/-- Place the next character, the last one first. -/
def place (before : List Placed) (character : Char) : List Placed :=
  let order := Marks.classOf character
  let letters := (before.head?.map Placed.place).getD 0
  ⟨character, if order = 0 then letters + 1 else letters, order⟩ :: before

/-- The characters with the marks of each letter in the order of their classes. -/
def ordered (text : List Char) : List Placed :=
  ((text.foldl place []).reverse).mergeSort Placed.precedes

/-- What has been put together: the text before the last letter and the marks that stay behind it,
both with the last character first. -/
structure Progress where
  before : List Char
  letter? : Option Char
  marks : List Placed

namespace Progress

/-- All that has been put together, with the last character first. -/
def written (progress : Progress) : List Char :=
  progress.marks.map Placed.character ++ progress.letter?.toList ++ progress.before

/-- Whether a character stands next to the letter: no mark of its own place is between the two. -/
def reaches (progress : Progress) (next : Placed) : Bool :=
  match progress.marks with
  | [] => true
  | mark :: _ => mark.order < next.order

def add (progress : Progress) (next : Placed) : Progress :=
  let composite? := do
    let letter ← progress.letter?
    if progress.reaches next then composite? letter next.character else none
  match composite? with
  | some composite => { progress with letter? := some composite }
  | none =>
      if next.order = 0 then ⟨progress.written, some next.character, []⟩
      else { progress with marks := next :: progress.marks }

end Progress

/-- A text with its characters put together. In ASCII there is nothing to put together. -/
def compose (text : List Char) : List Char :=
  if Text.isAscii text then text
  else ((ordered (text.flatMap (separated 3))).foldl Progress.add ⟨[], none, []⟩).written.reverse

end Depot.Http.Composition
