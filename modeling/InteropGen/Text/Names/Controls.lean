/-!
# Names of control characters

Each group is the words that its names begin with, and their endings between commas.
-/

namespace InteropGen.Text

/-- The names of control characters. -/
def controlNames : List (String × String) :=
  [("", "NULL, NUL, SOH, STX, ETX, EOT, ENQUIRY, ENQ, ACKNOWLEDGE, ACK, ALERT, BEL, BACKSPACE, BS,
     CHARACTER TABULATION, CHARACTER TABULATION SET, CHARACTER TABULATION WITH JUSTIFICATION,
     HORIZONTAL TABULATION, HORIZONTAL TABULATION SET, HORIZONTAL TABULATION WITH JUSTIFICATION,
     HT, TAB, NEW LINE, LF, NL, EOL, VERTICAL TABULATION, VERTICAL TABULATION SET, VT, FORM FEED,
     FF, CARRIAGE RETURN, CR, SO, SI, DATA LINK ESCAPE, DLE, DC1, DC2, DC3, DC4,
     NEGATIVE ACKNOWLEDGE, NAK, SYNCHRONOUS IDLE, SYN, ETB, CANCEL, CANCEL CHARACTER, CAN, EOM,
     SUBSTITUTE, SUB, ESCAPE, ESC, FILE SEPARATOR, FS, GROUP SEPARATOR, GS, RECORD SEPARATOR, RS,
     UNIT SEPARATOR, US, SP, DELETE, DEL, PADDING CHARACTER, PAD, HIGH OCTET PRESET, HOP,
     BREAK PERMITTED HERE, BPH, NO BREAK HERE, NBH, INDEX, IND, NEXT LINE, NEL, SSA, ESA, HTS,
     HTJ, VTS, PLD, PLU, RI, SINGLE-SHIFT-2, SS2, SINGLE-SHIFT-3, SS3, DCS, PU1, PU2,
     SET TRANSMIT STATE, STS, CCH, MESSAGE WAITING, MW, SPA, EPA, SOS, SGC, SCI,
     CONTROL SEQUENCE INTRODUCER, CSI, STRING TERMINATOR, ST, OPERATING SYSTEM COMMAND, OSC,
     PRIVACY MESSAGE, PM, APPLICATION PROGRAM COMMAND, APC, NBSP, SHY, CGJ, ZWSP, ZWNJ, ZWJ, LRM,
     RLM, LRE, RLE, PDF, LRO, RLO, NNBSP, MMSP, WJ, LRI, RLI, FSI, PDI, BOM, ZWNBSP,
     BYTE ORDER MARK, ZERO WIDTH NO-BREAK SPACE, WEIERSTRASS ELLIPTIC FUNCTION,
     REPLACEMENT CHARACTER, OBJECT REPLACEMENT CHARACTER"),
   ("START OF", "HEADING, TEXT, SELECTED AREA, GUARDED AREA, PROTECTED AREA, STRING"),
   ("END OF", "TEXT, TRANSMISSION, TRANSMISSION BLOCK, LINE, MEDIUM, SELECTED AREA, GUARDED AREA,
     PROTECTED AREA"),
   ("LINE", "FEED, TABULATION, TABULATION SET"),
   ("SHIFT", "OUT, IN"),
   ("LOCKING-SHIFT", "ONE, ZERO"),
   ("DEVICE CONTROL", "ONE, TWO, THREE, FOUR, STRING"),
   ("INFORMATION SEPARATOR", "FOUR, THREE, TWO, ONE"),
   ("PARTIAL LINE", "FORWARD, DOWN, BACKWARD, UP"),
   ("REVERSE", "LINE FEED, INDEX"),
   ("SINGLE", "SHIFT TWO, SHIFT THREE, GRAPHIC CHARACTER INTRODUCER, CHARACTER INTRODUCER"),
   ("PRIVATE", "USE ONE, USE TWO, USE-1, USE-2"),
   ("LATIN", "CAPITAL LETTER GHA, SMALL LETTER GHA")]

end InteropGen.Text
