/-
  Styles of text on a console.

  A style is written in words: attributes, each of which may be denied, a colour, a colour of the
  background after `on`, and an address after `link`.  The normal form of a style names its
  attributes in a fixed order and in full.
-/
import QueryTypings.Text.Integer
import QueryTypings.Text.LowerCase
import QueryTypings.Text.Blank

namespace QueryTypings.CommandLine

open QueryTypings.Text

/-! ## Attributes -/

/-- An attribute of text. -/
inductive Attribute
  | bold | dim | italic | underline | blink | blink2 | reverse | conceal | strike | underline2
  | frame | encircle | overline
deriving Repr, BEq, DecidableEq

/-- All attributes, in the order of the normal form. -/
def Attribute.all : List Attribute :=
  [.bold, .dim, .italic, .underline, .blink, .blink2, .reverse, .conceal, .strike, .underline2,
    .frame, .encircle, .overline]

/-- The name of an attribute, and its short name. -/
def Attribute.names : Attribute → String × Option String
  | .bold => ("bold", some "b")
  | .dim => ("dim", some "d")
  | .italic => ("italic", some "i")
  | .underline => ("underline", some "u")
  | .blink => ("blink", none)
  | .blink2 => ("blink2", none)
  | .reverse => ("reverse", some "r")
  | .conceal => ("conceal", some "c")
  | .strike => ("strike", some "s")
  | .underline2 => ("underline2", some "uu")
  | .frame => ("frame", none)
  | .encircle => ("encircle", none)
  | .overline => ("overline", some "o")

/-- The attribute of a name, long or short. -/
def Attribute.ofName? (name : String) : Option Attribute :=
  Attribute.all.find? fun a => a.names.1 == name || a.names.2 == some name

/-! ## Colours -/

/-- The colours that have names. -/
def colourNames : List String :=
  ["default", "black", "red", "green", "yellow", "blue", "magenta", "cyan", "white",
    "bright_black", "bright_red", "bright_green", "bright_yellow", "bright_blue",
    "bright_magenta", "bright_cyan", "bright_white", "grey0", "gray0", "navy_blue", "dark_blue",
    "blue3", "blue1", "dark_green", "deep_sky_blue4", "dodger_blue3", "dodger_blue2", "green4",
    "spring_green4", "turquoise4", "deep_sky_blue3", "dodger_blue1", "green3", "spring_green3",
    "dark_cyan", "light_sea_green", "deep_sky_blue2", "deep_sky_blue1", "spring_green2", "cyan3",
    "dark_turquoise", "turquoise2", "green1", "spring_green1", "medium_spring_green", "cyan2",
    "cyan1", "dark_red", "deep_pink4", "purple4", "purple3", "blue_violet", "orange4", "grey37",
    "gray37", "medium_purple4", "slate_blue3", "royal_blue1", "chartreuse4", "dark_sea_green4",
    "pale_turquoise4", "steel_blue", "steel_blue3", "cornflower_blue", "chartreuse3",
    "cadet_blue", "sky_blue3", "steel_blue1", "pale_green3", "sea_green3", "aquamarine3",
    "medium_turquoise", "chartreuse2", "sea_green2", "sea_green1", "aquamarine1",
    "dark_slate_gray2", "dark_magenta", "dark_violet", "purple", "light_pink4", "plum4",
    "medium_purple3", "slate_blue1", "yellow4", "wheat4", "grey53", "gray53", "light_slate_grey",
    "light_slate_gray", "medium_purple", "light_slate_blue", "dark_olive_green3",
    "dark_sea_green", "light_sky_blue3", "sky_blue2", "dark_sea_green3", "dark_slate_gray3",
    "sky_blue1", "chartreuse1", "light_green", "pale_green1", "dark_slate_gray1", "red3",
    "medium_violet_red", "magenta3", "dark_orange3", "indian_red", "hot_pink3", "medium_orchid3",
    "medium_orchid", "medium_purple2", "dark_goldenrod", "light_salmon3", "rosy_brown", "grey63",
    "gray63", "medium_purple1", "gold3", "dark_khaki", "navajo_white3", "grey69", "gray69",
    "light_steel_blue3", "light_steel_blue", "yellow3", "dark_sea_green2", "light_cyan3",
    "light_sky_blue1", "green_yellow", "dark_olive_green2", "dark_sea_green1", "pale_turquoise1",
    "deep_pink3", "magenta2", "hot_pink2", "orchid", "medium_orchid1", "orange3", "light_pink3",
    "pink3", "plum3", "violet", "light_goldenrod3", "tan", "misty_rose3", "thistle3", "plum2",
    "khaki3", "light_goldenrod2", "light_yellow3", "grey84", "gray84", "light_steel_blue1",
    "yellow2", "dark_olive_green1", "honeydew2", "light_cyan1", "red1", "deep_pink2",
    "deep_pink1", "magenta1", "orange_red1", "indian_red1", "hot_pink", "dark_orange", "salmon1",
    "light_coral", "pale_violet_red1", "orchid2", "orchid1", "orange1", "sandy_brown",
    "light_salmon1", "light_pink1", "pink1", "plum1", "gold1", "navajo_white1", "misty_rose1",
    "thistle1", "yellow1", "light_goldenrod1", "khaki1", "wheat1", "cornsilk1", "grey100",
    "gray100", "grey3", "gray3", "grey7", "gray7", "grey11", "gray11", "grey15", "gray15",
    "grey19", "gray19", "grey23", "gray23", "grey27", "gray27", "grey30", "gray30", "grey35",
    "gray35", "grey39", "gray39", "grey42", "gray42", "grey46", "gray46", "grey50", "gray50",
    "grey54", "gray54", "grey58", "gray58", "grey62", "gray62", "grey66", "gray66", "grey70",
    "gray70", "grey74", "gray74", "grey78", "gray78", "grey82", "gray82", "grey85", "gray85",
    "grey89", "gray89", "grey93", "gray93"]

/-- Why words are no style. -/
inductive StyleFault
  /-- A word means nothing. -/
  | unknown
  /-- A part of a colour is no number. -/
  | noNumber
deriving Repr, BEq, DecidableEq

/-- What stands in parentheses after a name. -/
def argument? (name : String) (cs : List Char) : Option (List Char) :=
  if (name.toList ++ ['(']).isPrefixOf cs && cs.getLast? == some ')' then
    some (cs.drop (name.length + 1)).dropLast
  else none

/-- The values of the digits of any script. -/
def digitValues (cs : List Char) : List Nat := cs.filterMap digitValue?

/-- What is wrong with the three parts of a colour, if anything is. -/
def partsFault? (parts : List (List Char)) : Option StyleFault :=
  if parts.length ≠ 3 then some .unknown
  else if parts.any fun p => p.isEmpty || maxDigits < p.length then some .noNumber
  else if parts.any fun p => 255 < digitsValue (digitValues p) then some .unknown
  else none

/-- What is wrong with a colour in lower case, if anything is.  It is a name, six hexadecimal digits
    after a sharp, a number, or three numbers. -/
def colourFault? (cs : List Char) : Option StyleFault :=
  let unlessKnown (known : Bool) : Option StyleFault := if known then none else some .unknown
  if colourNames.contains (String.ofList cs) then none
  else match cs, argument? "color" cs, argument? "rgb" cs with
    | '#' :: ds, _, _ =>
        unlessKnown (ds.length == 6 && ds.all fun d => d.isDigit || ('a' ≤ d && d ≤ 'f'))
    | _, some ds, _ =>
        unlessKnown (!ds.isEmpty && ds.length ≤ 3 && ds.all Char.isDigit
          && digitsValue (plainValues ds) ≤ 255)
    | _, _, some ps =>
        if !ps.isEmpty && ps.all fun c => c == ',' || (digitValue? c).isSome then
          partsFault? (splitAt ',' ps)
        else some .unknown
    | _, none, none => some .unknown

/-! ## Styles -/

/-- A style. -/
structure Style where
  attributes : List (Attribute × Bool)
  colour : Option (List Char)
  background : Option (List Char)
  link : Option (List Char)
deriving Repr, BEq, DecidableEq

namespace Style

/-- The style that changes nothing. -/
def none : Style := ⟨[], .none, .none, .none⟩

/-- The style with an attribute, or with its denial. -/
def withAttribute (s : Style) (a : Attribute) (holds : Bool) : Style :=
  { s with attributes := (a, holds) :: s.attributes.filter fun b => b.1 != a }

/-- Adds what words say to a style. -/
def addWords (s : Style) : List (List Char) → Except StyleFault Style
  | [] => .ok s
  | word :: rest =>
      let name := String.ofList (lower word)
      if name = "on" then
        match rest with
        | [] => .error .unknown
        | colour :: rest =>
            match colourFault? (lower colour) with
            | some f => .error f
            | .none => addWords { s with background := some (lower colour) } rest
      else if name = "not" then
        match rest with
        | [] => .error .unknown
        | denied :: rest =>
            match Attribute.ofName? (String.ofList denied) with
            | some a => addWords (s.withAttribute a false) rest
            | .none => .error .unknown
      else if name = "link" then
        match rest with
        | [] => .error .unknown
        | address :: rest => addWords { s with link := some address } rest
      else match Attribute.ofName? name with
        | some a => addWords (s.withAttribute a true) rest
        | .none =>
            match colourFault? (lower word) with
            | some f => .error f
            | .none => addWords { s with colour := some (lower word) } rest

/-- The style that a text writes. -/
def ofText (cs : List Char) : Except StyleFault Style :=
  if trim cs = "none".toList then .ok none else none.addWords (words cs)

/-- The words for an attribute, if the style says anything about it. -/
def attributeText? (s : Style) (a : Attribute) : Option (List Char) :=
  (s.attributes.find? fun b => b.1 == a).map fun b =>
    (if b.2 then a.names.1 else "not " ++ a.names.1).toList

/-- The normal form. -/
def text (s : Style) : List Char :=
  let after (word : String) (what : Option (List Char)) : Option (List Char) :=
    what.map fun cs => word.toList ++ ' ' :: cs
  match Attribute.all.filterMap s.attributeText? ++ s.colour.toList
      ++ (after "on" s.background).toList ++ (after "link" s.link).toList with
  | [] => "none".toList
  | parts => intercal [' '] parts

/-- The normal form of a text: that of the style it writes, or else just the text in lower case.  It
    fails where a part of a colour is no number. -/
def normalText (cs : List Char) : Except StyleFault (List Char) :=
  match ofText cs with
  | .ok s => .ok s.text
  | .error .unknown => .ok (lower (trim cs))
  | .error .noNumber => .error .noNumber

end Style

end QueryTypings.CommandLine
