/-!
# Further names of characters

Control characters have no name of their own but usual ones; other characters have abbreviations, or
a name that mends a mistake in the first one (Unicode 14).
-/

namespace ProposalCheck.Text.CharacterName

/-- Further names, by character. -/
def aliases : List (Nat × String) := [
  (0x0, "NUL"), (0x0, "NULL"), (0x1, "SOH"), (0x1, "START OF HEADING"), (0x2, "START OF TEXT"),
  (0x2, "STX"), (0x3, "END OF TEXT"), (0x3, "ETX"), (0x4, "END OF TRANSMISSION"), (0x4, "EOT"),
  (0x5, "ENQ"), (0x5, "ENQUIRY"), (0x6, "ACK"), (0x6, "ACKNOWLEDGE"), (0x7, "ALERT"), (0x7, "BEL"),
  (0x8, "BACKSPACE"), (0x8, "BS"), (0x9, "CHARACTER TABULATION"), (0x9, "HORIZONTAL TABULATION"),
  (0x9, "HT"), (0x9, "TAB"), (0xA, "END OF LINE"), (0xA, "EOL"), (0xA, "LF"), (0xA, "LINE FEED"),
  (0xA, "NEW LINE"), (0xA, "NL"), (0xB, "LINE TABULATION"), (0xB, "VERTICAL TABULATION"),
  (0xB, "VT"), (0xC, "FF"), (0xC, "FORM FEED"), (0xD, "CARRIAGE RETURN"), (0xD, "CR"),
  (0xE, "LOCKING-SHIFT ONE"), (0xE, "SHIFT OUT"), (0xE, "SO"), (0xF, "LOCKING-SHIFT ZERO"),
  (0xF, "SHIFT IN"), (0xF, "SI"), (0x10, "DATA LINK ESCAPE"), (0x10, "DLE"), (0x11, "DC1"),
  (0x11, "DEVICE CONTROL ONE"), (0x12, "DC2"), (0x12, "DEVICE CONTROL TWO"), (0x13, "DC3"),
  (0x13, "DEVICE CONTROL THREE"), (0x14, "DC4"), (0x14, "DEVICE CONTROL FOUR"), (0x15, "NAK"),
  (0x15, "NEGATIVE ACKNOWLEDGE"), (0x16, "SYN"), (0x16, "SYNCHRONOUS IDLE"),
  (0x17, "END OF TRANSMISSION BLOCK"), (0x17, "ETB"), (0x18, "CAN"), (0x18, "CANCEL"),
  (0x19, "END OF MEDIUM"), (0x19, "EOM"), (0x1A, "SUB"), (0x1A, "SUBSTITUTE"), (0x1B, "ESC"),
  (0x1B, "ESCAPE"), (0x1C, "FILE SEPARATOR"), (0x1C, "FS"), (0x1C, "INFORMATION SEPARATOR FOUR"),
  (0x1D, "GROUP SEPARATOR"), (0x1D, "GS"), (0x1D, "INFORMATION SEPARATOR THREE"),
  (0x1E, "INFORMATION SEPARATOR TWO"), (0x1E, "RECORD SEPARATOR"), (0x1E, "RS"),
  (0x1F, "INFORMATION SEPARATOR ONE"), (0x1F, "UNIT SEPARATOR"), (0x1F, "US"), (0x20, "SP"),
  (0x7F, "DEL"), (0x7F, "DELETE"), (0x80, "PAD"), (0x80, "PADDING CHARACTER"),
  (0x81, "HIGH OCTET PRESET"), (0x81, "HOP"), (0x82, "BPH"), (0x82, "BREAK PERMITTED HERE"),
  (0x83, "NBH"), (0x83, "NO BREAK HERE"), (0x84, "IND"), (0x84, "INDEX"), (0x85, "NEL"),
  (0x85, "NEXT LINE"), (0x86, "SSA"), (0x86, "START OF SELECTED AREA"),
  (0x87, "END OF SELECTED AREA"), (0x87, "ESA"), (0x88, "CHARACTER TABULATION SET"),
  (0x88, "HORIZONTAL TABULATION SET"), (0x88, "HTS"),
  (0x89, "CHARACTER TABULATION WITH JUSTIFICATION"),
  (0x89, "HORIZONTAL TABULATION WITH JUSTIFICATION"), (0x89, "HTJ"), (0x8A, "LINE TABULATION SET"),
  (0x8A, "VERTICAL TABULATION SET"), (0x8A, "VTS"), (0x8B, "PARTIAL LINE DOWN"),
  (0x8B, "PARTIAL LINE FORWARD"), (0x8B, "PLD"), (0x8C, "PARTIAL LINE BACKWARD"),
  (0x8C, "PARTIAL LINE UP"), (0x8C, "PLU"), (0x8D, "REVERSE INDEX"), (0x8D, "REVERSE LINE FEED"),
  (0x8D, "RI"), (0x8E, "SINGLE SHIFT TWO"), (0x8E, "SINGLE-SHIFT-2"), (0x8E, "SS2"),
  (0x8F, "SINGLE SHIFT THREE"), (0x8F, "SINGLE-SHIFT-3"), (0x8F, "SS3"), (0x90, "DCS"),
  (0x90, "DEVICE CONTROL STRING"), (0x91, "PRIVATE USE ONE"), (0x91, "PRIVATE USE-1"),
  (0x91, "PU1"), (0x92, "PRIVATE USE TWO"), (0x92, "PRIVATE USE-2"), (0x92, "PU2"),
  (0x93, "SET TRANSMIT STATE"), (0x93, "STS"), (0x94, "CANCEL CHARACTER"), (0x94, "CCH"),
  (0x95, "MESSAGE WAITING"), (0x95, "MW"), (0x96, "SPA"), (0x96, "START OF GUARDED AREA"),
  (0x96, "START OF PROTECTED AREA"), (0x97, "END OF GUARDED AREA"), (0x97, "END OF PROTECTED AREA"),
  (0x97, "EPA"), (0x98, "SOS"), (0x98, "START OF STRING"), (0x99, "SGC"),
  (0x99, "SINGLE GRAPHIC CHARACTER INTRODUCER"), (0x9A, "SCI"),
  (0x9A, "SINGLE CHARACTER INTRODUCER"), (0x9B, "CONTROL SEQUENCE INTRODUCER"), (0x9B, "CSI"),
  (0x9C, "ST"), (0x9C, "STRING TERMINATOR"), (0x9D, "OPERATING SYSTEM COMMAND"), (0x9D, "OSC"),
  (0x9E, "PM"), (0x9E, "PRIVACY MESSAGE"), (0x9F, "APC"), (0x9F, "APPLICATION PROGRAM COMMAND"),
  (0xA0, "NBSP"), (0xAD, "SHY"), (0x1A2, "LATIN CAPITAL LETTER GHA"),
  (0x1A3, "LATIN SMALL LETTER GHA"), (0x34F, "CGJ"), (0x61C, "ALM"),
  (0x709, "SYRIAC SUBLINEAR COLON SKEWED LEFT"), (0xCDE, "KANNADA LETTER LLLA"),
  (0xE9D, "LAO LETTER FO FON"), (0xE9F, "LAO LETTER FO FAY"), (0xEA3, "LAO LETTER RO"),
  (0xEA5, "LAO LETTER LO"), (0xFD0, "TIBETAN MARK BKA- SHOG GI MGO RGYAN"),
  (0x11EC, "HANGUL JONGSEONG YESIEUNG-KIYEOK"), (0x11ED, "HANGUL JONGSEONG YESIEUNG-SSANGKIYEOK"),
  (0x11EE, "HANGUL JONGSEONG SSANGYESIEUNG"), (0x11EF, "HANGUL JONGSEONG YESIEUNG-KHIEUKH"),
  (0x180B, "FVS1"), (0x180C, "FVS2"), (0x180D, "FVS3"), (0x180E, "MVS"), (0x180F, "FVS4"),
  (0x200B, "ZWSP"), (0x200C, "ZWNJ"), (0x200D, "ZWJ"), (0x200E, "LRM"), (0x200F, "RLM"),
  (0x202A, "LRE"), (0x202B, "RLE"), (0x202C, "PDF"), (0x202D, "LRO"), (0x202E, "RLO"),
  (0x202F, "NNBSP"), (0x205F, "MMSP"), (0x2060, "WJ"), (0x2066, "LRI"), (0x2067, "RLI"),
  (0x2068, "FSI"), (0x2069, "PDI"), (0x2118, "WEIERSTRASS ELLIPTIC FUNCTION"),
  (0x2448, "MICR ON US SYMBOL"), (0x2449, "MICR DASH SYMBOL"),
  (0x2B7A, "LEFTWARDS TRIANGLE-HEADED ARROW WITH DOUBLE VERTICAL STROKE"),
  (0x2B7C, "RIGHTWARDS TRIANGLE-HEADED ARROW WITH DOUBLE VERTICAL STROKE"),
  (0xA015, "YI SYLLABLE ITERATION MARK"), (0xAA6E, "MYANMAR LETTER KHAMTI LLA"),
  (0xFE18, "PRESENTATION FORM FOR VERTICAL RIGHT WHITE LENTICULAR BRACKET"), (0xFEFF, "BOM"),
  (0xFEFF, "BYTE ORDER MARK"), (0xFEFF, "ZWNBSP"), (0x122D4, "CUNEIFORM SIGN NU11 TENU"),
  (0x122D5, "CUNEIFORM SIGN NU11 OVER NU11 BUR OVER BUR"),
  (0x16E56, "MEDEFAIDRIN CAPITAL LETTER H"), (0x16E57, "MEDEFAIDRIN CAPITAL LETTER NG"),
  (0x16E76, "MEDEFAIDRIN SMALL LETTER H"), (0x16E77, "MEDEFAIDRIN SMALL LETTER NG"),
  (0x1B001, "HENTAIGANA LETTER E-1"),
  (0x1D0C5, "BYZANTINE MUSICAL SYMBOL FTHORA SKLIRON CHROMA VASIS")]

end ProposalCheck.Text.CharacterName
