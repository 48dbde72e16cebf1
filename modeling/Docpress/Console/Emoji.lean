import Docpress.Console.Emoji.Name
import Docpress.Text.Basic
import Docpress.Text.Blank
import Docpress.Text.Case
/-!
Emoji codes: a name between colons stands for an emoji. A name that is not known stays as it is.
-/

namespace Docpress.Console

/-! ### Flags -/

/-- The regions whose names stand for their flags, with `flag_for_` before them or without. -/
def regions : List (String × String) :=
  [("afghanistan", "af"), ("albania", "al"), ("algeria", "dz"), ("american_samoa", "as"),
   ("andorra", "ad"), ("angola", "ao"), ("anguilla", "ai"), ("antarctica", "aq"),
   ("antigua_&_barbuda", "ag"), ("argentina", "ar"), ("armenia", "am"), ("aruba", "aw"),
   ("ascension_island", "ac"), ("australia", "au"), ("austria", "at"), ("azerbaijan", "az"),
   ("bahamas", "bs"), ("bahrain", "bh"), ("bangladesh", "bd"), ("barbados", "bb"),
   ("belarus", "by"), ("belgium", "be"), ("belize", "bz"), ("benin", "bj"), ("bermuda", "bm"),
   ("bhutan", "bt"), ("bolivia", "bo"), ("bosnia_&_herzegovina", "ba"), ("botswana", "bw"),
   ("bouvet_island", "bv"), ("brazil", "br"), ("british_indian_ocean_territory", "io"),
   ("british_virgin_islands", "vg"), ("brunei", "bn"), ("bulgaria", "bg"), ("burkina_faso", "bf"),
   ("burundi", "bi"), ("cambodia", "kh"), ("cameroon", "cm"), ("canada", "ca"),
   ("canary_islands", "ic"), ("cape_verde", "cv"), ("caribbean_netherlands", "bq"),
   ("cayman_islands", "ky"), ("central_african_republic", "cf"), ("ceuta_&_melilla", "ea"),
   ("chad", "td"), ("chile", "cl"), ("china", "cn"), ("christmas_island", "cx"),
   ("clipperton_island", "cp"), ("colombia", "co"), ("comoros", "km"), ("cook_islands", "ck"),
   ("costa_rica", "cr"), ("croatia", "hr"), ("cuba", "cu"), ("curaçao", "cw"), ("cyprus", "cy"),
   ("côte_d’ivoire", "ci"), ("denmark", "dk"), ("diego_garcia", "dg"), ("djibouti", "dj"),
   ("dominica", "dm"), ("dominican_republic", "do"), ("ecuador", "ec"), ("egypt", "eg"),
   ("el_salvador", "sv"), ("equatorial_guinea", "gq"), ("eritrea", "er"), ("estonia", "ee"),
   ("ethiopia", "et"), ("european_union", "eu"), ("falkland_islands", "fk"),
   ("faroe_islands", "fo"), ("fiji", "fj"), ("finland", "fi"), ("france", "fr"),
   ("french_guiana", "gf"), ("french_polynesia", "pf"), ("french_southern_territories", "tf"),
   ("gabon", "ga"), ("gambia", "gm"), ("georgia", "ge"), ("germany", "de"), ("ghana", "gh"),
   ("gibraltar", "gi"), ("greece", "gr"), ("greenland", "gl"), ("grenada", "gd"),
   ("guadeloupe", "gp"), ("guam", "gu"), ("guatemala", "gt"), ("guernsey", "gg"), ("guinea", "gn"),
   ("guyana", "gy"), ("haiti", "ht"), ("heard_&_mcdonald_islands", "hm"), ("honduras", "hn"),
   ("hungary", "hu"), ("iceland", "is"), ("india", "in"), ("indonesia", "id"), ("iran", "ir"),
   ("iraq", "iq"), ("ireland", "ie"), ("isle_of_man", "im"), ("israel", "il"), ("italy", "it"),
   ("jamaica", "jm"), ("jersey", "je"), ("jordan", "jo"), ("kazakhstan", "kz"), ("kenya", "ke"),
   ("kiribati", "ki"), ("kosovo", "xk"), ("kuwait", "kw"), ("kyrgyzstan", "kg"), ("laos", "la"),
   ("latvia", "lv"), ("lebanon", "lb"), ("lesotho", "ls"), ("liberia", "lr"), ("libya", "ly"),
   ("liechtenstein", "li"), ("lithuania", "lt"), ("luxembourg", "lu"), ("macedonia", "mk"),
   ("madagascar", "mg"), ("malawi", "mw"), ("malaysia", "my"), ("maldives", "mv"), ("mali", "ml"),
   ("malta", "mt"), ("marshall_islands", "mh"), ("martinique", "mq"), ("mauritania", "mr"),
   ("mauritius", "mu"), ("mayotte", "yt"), ("mexico", "mx"), ("micronesia", "fm"),
   ("moldova", "md"), ("monaco", "mc"), ("mongolia", "mn"), ("montenegro", "me"),
   ("montserrat", "ms"), ("morocco", "ma"), ("mozambique", "mz"), ("namibia", "na"),
   ("nauru", "nr"), ("nepal", "np"), ("netherlands", "nl"), ("new_caledonia", "nc"),
   ("new_zealand", "nz"), ("nicaragua", "ni"), ("niger", "ne"), ("nigeria", "ng"), ("niue", "nu"),
   ("norfolk_island", "nf"), ("north_korea", "kp"), ("northern_mariana_islands", "mp"),
   ("norway", "no"), ("oman", "om"), ("pakistan", "pk"), ("palau", "pw"),
   ("palestinian_territories", "ps"), ("panama", "pa"), ("papua_new_guinea", "pg"),
   ("paraguay", "py"), ("peru", "pe"), ("philippines", "ph"), ("pitcairn_islands", "pn"),
   ("poland", "pl"), ("portugal", "pt"), ("puerto_rico", "pr"), ("qatar", "qa"), ("romania", "ro"),
   ("russia", "ru"), ("rwanda", "rw"), ("réunion", "re"), ("samoa", "ws"), ("san_marino", "sm"),
   ("saudi_arabia", "sa"), ("senegal", "sn"), ("serbia", "rs"), ("seychelles", "sc"),
   ("sierra_leone", "sl"), ("singapore", "sg"), ("sint_maarten", "sx"), ("slovakia", "sk"),
   ("slovenia", "si"), ("solomon_islands", "sb"), ("somalia", "so"), ("south_africa", "za"),
   ("south_georgia_&_south_sandwich_islands", "gs"), ("south_korea", "kr"), ("south_sudan", "ss"),
   ("spain", "es"), ("sri_lanka", "lk"), ("st._barthélemy", "bl"), ("st._helena", "sh"),
   ("st._kitts_&_nevis", "kn"), ("st._lucia", "lc"), ("st._martin", "mf"),
   ("st._pierre_&_miquelon", "pm"), ("st._vincent_&_grenadines", "vc"), ("sudan", "sd"),
   ("suriname", "sr"), ("svalbard_&_jan_mayen", "sj"), ("swaziland", "sz"), ("sweden", "se"),
   ("switzerland", "ch"), ("syria", "sy"), ("são_tomé_&_príncipe", "st"), ("taiwan", "tw"),
   ("tajikistan", "tj"), ("tanzania", "tz"), ("thailand", "th"), ("togo", "tg"), ("tokelau", "tk"),
   ("tonga", "to"), ("trinidad_&_tobago", "tt"), ("tristan_da_cunha", "ta"), ("tunisia", "tn"),
   ("turkmenistan", "tm"), ("turks_&_caicos_islands", "tc"), ("tuvalu", "tv"),
   ("u.s._outlying_islands", "um"), ("u.s._virgin_islands", "vi"), ("uganda", "ug"),
   ("ukraine", "ua"), ("united_arab_emirates", "ae"), ("united_kingdom", "gb"),
   ("united_states", "us"), ("uruguay", "uy"), ("uzbekistan", "uz"), ("vanuatu", "vu"),
   ("vatican_city", "va"), ("venezuela", "ve"), ("vietnam", "vn"), ("wallis_&_futuna", "wf"),
   ("western_sahara", "eh"), ("yemen", "ye"), ("zambia", "zm"), ("zimbabwe", "zw"),
   ("åland_islands", "ax")]

/-- The regions whose names stand for their flags as they are only. -/
def bareRegions : List (String × String) :=
  [("cocos_(keeling)_islands", "cc"), ("congo_-_brazzaville", "cg"), ("congo_-_kinshasa", "cd"),
   ("czechia", "cz"), ("guinea-bissau", "gw"), ("hong_kong_sar_china", "hk"),
   ("macau_sar_china", "mo"), ("myanmar_(burma)", "mm"), ("timor-leste", "tl"),
   ("united_nations", "un")]

/-- The regions whose names stand for their flags with `flag_for_` before them only. -/
def ledRegions : List (String × String) :=
  [("cocos__islands", "cc"), ("congo____brazzaville", "cg"), ("congo____kinshasa", "cd"),
   ("czech_republic", "cz"), ("guinea__bissau", "gw"), ("hong_kong", "hk"), ("japan", "jp"),
   ("macau", "mo"), ("myanmar", "mm"), ("timor__leste", "tl"), ("turkey", "tr")]

/-- The text that may come before the name of a region. -/
def flagLead : Text :=
  "flag_for_".toList

/-- The character of a flag for a letter. -/
def flagChar (c : Char) : Char :=
  Char.ofNat (0x1F1E6 + (c.toNat - 'a'.toNat))

/-- The letters of the region that a name stands for. -/
def region? (name : Text) : Option String :=
  match Text.dropLead? flagLead name with
  | some rest => (regions ++ ledRegions).lookup (String.ofList rest)
  | none => (regions ++ bareRegions).lookup (String.ofList name)

/-- The flag that a name stands for. -/
def flag? (name : Text) : Option Text :=
  (region? name).map fun letters => letters.toList.map flagChar

/-! ### Skin tones and names -/

/-- The skin tones by name, each with the character that gives it. -/
def skinTones : List (String × Nat) :=
  [("light", 0x1F3FB), ("medium-light", 0x1F3FC), ("medium", 0x1F3FD), ("medium-dark", 0x1F3FE),
   ("dark", 0x1F3FF)]

/-- The mark that asks for the coloured form of a character. -/
def colouredMark : Nat :=
  0xFE0F

/-- An emoji with a skin tone: the tone follows the first character, in place of a mark there. -/
def giveTone (tone : Nat) : List Nat → List Nat
  | [] => []
  | c :: rest => c :: tone :: rest.dropWhile (· == colouredMark)

/-- What comes before `tail` in a text that ends with it. -/
def dropTail? (tail s : Text) : Option Text :=
  (Text.dropLead? tail.reverse s.reverse).map List.reverse

/-- The emoji that a name with a skin tone stands for. -/
def tonedEmoji? (name : Text) : Option (List Nat) :=
  skinTones.firstM fun (word, tone) => do
    let base ← dropTail? ("_" ++ word ++ "_skin_tone").toList name
    guard (tonedNames.contains (String.ofList base))
    return giveTone tone (← emojiNames.lookup (String.ofList base))

/-- The emoji that a name in lower case stands for. -/
def emoji? (name : Text) : Option Text :=
  match emojiNames.lookup (String.ofList name) with
  | some codes => some (codes.map Char.ofNat)
  | none =>
    match flag? name with
    | some flag => some flag
    | none => (tonedEmoji? name).map (·.map Char.ofNat)

/-- What is between the colons of a code at the beginning of a text. -/
def codeAt? : Text → Option Text
  | ':' :: s =>
    let inner := s.takeWhile fun c => c != ':' && !isBlank c
    if (s.drop inner.length).head? == some ':' then some inner else none
  | _ => none

/-- The name in a code, and the mark that the variant after it asks for. -/
def splitVariant (inner : Text) : Text × Text :=
  match dropTail? "-text".toList inner, dropTail? "-emoji".toList inner with
  | some name, _ => (name, [Char.ofNat 0xFE0E])
  | none, some name => (name, [Char.ofNat colouredMark])
  | none, none => (inner, [])

/-- What a code stands for. -/
def expandCode (inner : Text) : Text :=
  let (name, mark) := splitVariant inner
  match emoji? (lower name) with
  | some emoji => emoji ++ mark
  | none => ':' :: inner ++ [':']

/-- A text with its emoji codes replaced. -/
def expandCodes (s : Text) : Text :=
  let expand (here : Text) := (codeAt? here).map fun inner => (expandCode inner, inner.length + 1)
  Text.substitute expand s

end Docpress.Console
