/-
  Further names of characters: of the controls, which have no other, abbreviations, and
  names that mend a mistaken one.

  A line gives a first code point, the beginning that the names on it share, and the
  endings for that code point and those after it.
-/

namespace VirtualShell.CharacterName

/-- Further names of characters. -/
def aliasNames : String :=
"0 |NULL
1 START OF |HEADING|TEXT
3 END OF |TEXT|TRANSMISSION
5 |ENQUIRY|ACKNOWLEDGE
7 |ALERT|BACKSPACE|HORIZONTAL TABULATION|END OF LINE|VERTICAL TABULATION|FORM FEED|CARRIAGE RETURN
E LOCKING-SHIFT |ONE|ZERO
10 |DATA LINK ESCAPE
11 DEVICE CONTROL |ONE|TWO|THREE|FOUR
15 |NEGATIVE ACKNOWLEDGE
16 |SYNCHRONOUS IDLE|END OF TRANSMISSION BLOCK|CANCEL|END OF MEDIUM|SUBSTITUTE|ESCAPE
1C INFORMATION SEPARATOR |FOUR|THREE|TWO|ONE
20 |SP
7F |DELETE|PADDING CHARACTER|HIGH OCTET PRESET
82 |BREAK PERMITTED HERE|NO BREAK HERE|INDEX|NEXT LINE|START OF SELECTED AREA|END OF SELECTED AREA
88 HORIZONTAL TABULATION |SET|WITH JUSTIFICATION
8A |VERTICAL TABULATION SET
8B PARTIAL LINE |FORWARD|BACKWARD
8D |REVERSE LINE FEED
8E SINGLE SHIFT |TWO|THREE
90 |DEVICE CONTROL STRING
91 PRIVATE USE |ONE|TWO
93 |SET TRANSMIT STATE
94 |CANCEL CHARACTER|MESSAGE WAITING|START OF PROTECTED AREA|END OF PROTECTED AREA|START OF STRING
99 SINGLE |GRAPHIC CHARACTER INTRODUCER|CHARACTER INTRODUCER
9B |CONTROL SEQUENCE INTRODUCER
9C |STRING TERMINATOR|OPERATING SYSTEM COMMAND|PRIVACY MESSAGE|APPLICATION PROGRAM COMMAND|NBSP
AD |SHY
1A2 LATIN |CAPITAL LETTER GHA|SMALL LETTER GHA
34F |CGJ
61C |ALM
709 |SYRIAC SUBLINEAR COLON SKEWED LEFT
CDE |KANNADA LETTER LLLA
E9D |LAO LETTER FO FON
E9F |LAO LETTER FO FAY
EA3 |LAO LETTER RO
EA5 |LAO LETTER LO
FD0 |TIBETAN MARK BKA- SHOG GI MGO RGYAN
11EC HANGUL JONGSEONG |YESIEUNG-KIYEOK|YESIEUNG-SSANGKIYEOK|SSANGYESIEUNG|YESIEUNG-KHIEUKH
180B |FVS1|FVS2|FVS3|MVS|FVS4
200B |ZWSP|ZWNJ|ZWJ|LRM|RLM
202A |LRE|RLE|PDF|LRO|RLO|NNBSP
205F |MMSP|WJ
2066 |LRI|RLI|FSI|PDI
2118 |WEIERSTRASS ELLIPTIC FUNCTION
2448 MICR |ON US SYMBOL|DASH SYMBOL
2B7A |LEFTWARDS TRIANGLE-HEADED ARROW WITH DOUBLE VERTICAL STROKE
2B7C |RIGHTWARDS TRIANGLE-HEADED ARROW WITH DOUBLE VERTICAL STROKE
A015 |YI SYLLABLE ITERATION MARK
AA6E |MYANMAR LETTER KHAMTI LLA
FE00 |VS1|VS2|VS3|VS4|VS5|VS6|VS7|VS8|VS9|VS10|VS11|VS12|VS13|VS14|VS15|VS16
FE18 |PRESENTATION FORM FOR VERTICAL RIGHT WHITE LENTICULAR BRACKET
FEFF |BYTE ORDER MARK
122D4 CUNEIFORM SIGN NU11 |TENU|OVER NU11 BUR OVER BUR
16E56 MEDEFAIDRIN CAPITAL LETTER |H|NG
16E76 MEDEFAIDRIN SMALL LETTER |H|NG
1B001 |HENTAIGANA LETTER E-1
1D0C5 |BYZANTINE MUSICAL SYMBOL FTHORA SKLIRON CHROMA VASIS
E0100 |VS17
E0101 |VS18|VS19|VS20|VS21|VS22|VS23|VS24|VS25|VS26|VS27|VS28|VS29|VS30|VS31|VS32|VS33|VS34|VS35
E0113 |VS36|VS37|VS38|VS39|VS40|VS41|VS42|VS43|VS44|VS45|VS46|VS47|VS48|VS49|VS50|VS51|VS52|VS53
E0125 |VS54|VS55|VS56|VS57|VS58|VS59|VS60|VS61|VS62|VS63|VS64|VS65|VS66|VS67|VS68|VS69|VS70|VS71
E0137 |VS72|VS73|VS74|VS75|VS76|VS77|VS78|VS79|VS80|VS81|VS82|VS83|VS84|VS85|VS86|VS87|VS88|VS89
E0149 |VS90|VS91|VS92|VS93|VS94|VS95|VS96|VS97|VS98|VS99|VS100|VS101|VS102|VS103|VS104|VS105|VS106
E015A |VS107|VS108|VS109|VS110|VS111|VS112|VS113|VS114|VS115|VS116|VS117|VS118|VS119|VS120|VS121
E0169 |VS122|VS123|VS124|VS125|VS126|VS127|VS128|VS129|VS130|VS131|VS132|VS133|VS134|VS135|VS136
E0178 |VS137|VS138|VS139|VS140|VS141|VS142|VS143|VS144|VS145|VS146|VS147|VS148|VS149|VS150|VS151
E0187 |VS152|VS153|VS154|VS155|VS156|VS157|VS158|VS159|VS160|VS161|VS162|VS163|VS164|VS165|VS166
E0196 |VS167|VS168|VS169|VS170|VS171|VS172|VS173|VS174|VS175|VS176|VS177|VS178|VS179|VS180|VS181
E01A5 |VS182|VS183|VS184|VS185|VS186|VS187|VS188|VS189|VS190|VS191|VS192|VS193|VS194|VS195|VS196
E01B4 |VS197|VS198|VS199|VS200|VS201|VS202|VS203|VS204|VS205|VS206|VS207|VS208|VS209|VS210|VS211
E01C3 |VS212|VS213|VS214|VS215|VS216|VS217|VS218|VS219|VS220|VS221|VS222|VS223|VS224|VS225|VS226
E01D2 |VS227|VS228|VS229|VS230|VS231|VS232|VS233|VS234|VS235|VS236|VS237|VS238|VS239|VS240|VS241
E01E1 |VS242|VS243|VS244|VS245|VS246|VS247|VS248|VS249|VS250|VS251|VS252|VS253|VS254|VS255|VS256
0 |NUL|SOH|STX|ETX|EOT|ENQ|ACK|BEL|BS|CHARACTER TABULATION
A LINE |FEED|TABULATION
C |FF|CR|SHIFT OUT|SHIFT IN|DLE|DC1|DC2|DC3
14 |DC4|NAK|SYN|ETB|CAN|EOM|SUB|ESC|FILE SEPARATOR|GROUP SEPARATOR|RECORD SEPARATOR|UNIT SEPARATOR
7F |DEL|PAD|HOP|BPH|NBH|IND|NEL|SSA|ESA
88 CHARACTER TABULATION |SET|WITH JUSTIFICATION
8A |LINE TABULATION SET
8B PARTIAL LINE |DOWN|UP
8D |REVERSE INDEX
8E SINGLE-SHIFT-|2|3
90 |DCS
91 PRIVATE USE-|1|2
93 |STS|CCH|MW|START OF GUARDED AREA|END OF GUARDED AREA|SOS|SGC|SCI|CSI|ST|OSC|PM|APC
FEFF |ZWNBSP
9 |TAB|NEW LINE|VT
E |SO|SI
1C |FS|GS|RS|US
88 |HTS|HTJ|VTS|PLD|PLU|RI|SS2|SS3
91 |PU1|PU2
96 |SPA|EPA
FEFF |BOM
9 |HT|EOL
A |LF
A |NL"

end VirtualShell.CharacterName
