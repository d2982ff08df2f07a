/-!
Second names of characters: those of control characters, abbreviations, and corrections of names.
-/
set_option autoImplicit false

namespace Winnow.Text.CharacterName

def aliases : String := "
0 :NUL|SOH|START OF TEXT|END OF TEXT;4 :END OF TRANSMISSION|ENQ|ACK|ALERT|BACKSPACE;9 :CHARACTER TABULATION|
END OF LINE|LINE TABULATION|FF|CARRIAGE RETURN;E LOCKING-SHIFT :ONE|ZERO;10 :DATA LINK ESCAPE|DC1|DC2|DC3;
14 :DC4|NAK|SYN|END OF TRANSMISSION BLOCK|CAN;19 :END OF MEDIUM|SUB|ESC|FILE SEPARATOR|GROUP SEPARATOR;
1E INFORMATION SEPARATOR :TWO|ONE;20 :SP;7F :DEL|PAD|HIGH OCTET PRESET|BPH;83 :NBH|IND|NEL|SSA|
END OF SELECTED AREA;88 CHARACTER TABULATION :SET|WITH JUSTIFICATION;8A :LINE TABULATION SET;
8B PARTIAL LINE :DOWN|BACKWARD;8D :REVERSE INDEX|SINGLE SHIFT TWO|SINGLE SHIFT THREE|DCS;91 PRIVATE USE :ONE|
TWO;93 :SET TRANSMIT STATE|CANCEL CHARACTER|MESSAGE WAITING|SPA;97 :END OF GUARDED AREA|SOS|SGC|SCI|
CONTROL SEQUENCE INTRODUCER;9C :ST|OPERATING SYSTEM COMMAND|PM|APC|NBSP;AD :SHY;1A2 LATIN :CAPITAL LETTER GHA|
SMALL LETTER GHA;34F :CGJ;61C :ALM;709 :SYRIAC SUBLINEAR COLON SKEWED LEFT;CDE :KANNADA LETTER LLLA;
E9D :LAO LETTER FO FON;E9F :LAO LETTER FO FAY;EA3 :LAO LETTER RO;EA5 :LAO LETTER LO;
FD0 :TIBETAN MARK BKA- SHOG GI MGO RGYAN;11EC HANGUL JONGSEONG :YESIEUNG-KIYEOK|YESIEUNG-SSANGKIYEOK|
SSANGYESIEUNG|YESIEUNG-KHIEUKH;180B :FVS1|FVS2|FVS3|MVS|FVS4;200B :ZWSP|ZWNJ|ZWJ|LRM|RLM;202A :LRE;202B :RLE|
PDF|LRO|RLO|NNBSP;205F :MMSP|WJ;2066 :LRI|RLI|FSI|PDI;2118 :WEIERSTRASS ELLIPTIC FUNCTION;
2448 MICR :ON US SYMBOL|DASH SYMBOL;2B7A :LEFTWARDS TRIANGLE-HEADED ARROW WITH DOUBLE VERTICAL STROKE;
2B7C :RIGHTWARDS TRIANGLE-HEADED ARROW WITH DOUBLE VERTICAL STROKE;A015 :YI SYLLABLE ITERATION MARK;
AA6E :MYANMAR LETTER KHAMTI LLA;FE00 :VS1;FE01 :VS2|VS3|VS4|VS5|VS6;FE06 :VS7|VS8|VS9|VS10|VS11;FE0B :VS12|VS13|
VS14|VS15|VS16;FE18 :PRESENTATION FORM FOR VERTICAL RIGHT WHITE LENTICULAR BRACKET;FEFF :BOM;
122D4 CUNEIFORM SIGN NU11 :TENU|OVER NU11 BUR OVER BUR;16E56 MEDEFAIDRIN CAPITAL LETTER :H|NG;
16E76 MEDEFAIDRIN SMALL LETTER :H|NG;1B001 :HENTAIGANA LETTER E-1;
1D0C5 :BYZANTINE MUSICAL SYMBOL FTHORA SKLIRON CHROMA VASIS;E0100 :VS17|VS18|VS19|VS20|VS21;E0105 :VS22|VS23|
VS24|VS25|VS26;E010A :VS27|VS28|VS29|VS30|VS31;E010F :VS32|VS33|VS34|VS35|VS36;E0114 :VS37|VS38|VS39|VS40|VS41;
E0119 :VS42|VS43|VS44|VS45|VS46;E011E :VS47|VS48|VS49|VS50|VS51;E0123 :VS52|VS53|VS54|VS55|VS56;E0128 :VS57|
VS58|VS59|VS60|VS61;E012D :VS62|VS63|VS64|VS65|VS66;E0132 :VS67|VS68|VS69|VS70|VS71;E0137 :VS72|VS73|VS74|VS75|
VS76;E013C :VS77|VS78|VS79|VS80|VS81;E0141 :VS82|VS83|VS84|VS85|VS86;E0146 :VS87|VS88|VS89|VS90|VS91;
E014B :VS92|VS93|VS94|VS95|VS96;E0150 :VS97|VS98|VS99|VS100|VS101;E0155 :VS102|VS103|VS104|VS105|VS106;
E015A :VS107|VS108|VS109|VS110|VS111;E015F :VS112|VS113|VS114|VS115|VS116;E0164 :VS117|VS118|VS119|VS120|VS121;
E0169 :VS122|VS123|VS124|VS125|VS126;E016E :VS127|VS128|VS129|VS130|VS131;E0173 :VS132|VS133|VS134|VS135|VS136;
E0178 :VS137|VS138|VS139|VS140|VS141;E017D :VS142|VS143|VS144|VS145|VS146;E0182 :VS147|VS148|VS149|VS150|VS151;
E0187 :VS152|VS153|VS154|VS155|VS156;E018C :VS157|VS158|VS159|VS160|VS161;E0191 :VS162|VS163|VS164|VS165|VS166;
E0196 :VS167|VS168|VS169|VS170|VS171;E019B :VS172|VS173|VS174|VS175|VS176;E01A0 :VS177|VS178|VS179|VS180|VS181;
E01A5 :VS182|VS183|VS184|VS185|VS186;E01AA :VS187|VS188|VS189|VS190|VS191;E01AF :VS192|VS193|VS194|VS195|VS196;
E01B4 :VS197|VS198|VS199|VS200|VS201;E01B9 :VS202|VS203|VS204|VS205|VS206;E01BE :VS207|VS208|VS209|VS210|VS211;
E01C3 :VS212|VS213|VS214|VS215|VS216;E01C8 :VS217|VS218|VS219|VS220|VS221;E01CD :VS222|VS223|VS224|VS225|VS226;
E01D2 :VS227|VS228|VS229|VS230|VS231;E01D7 :VS232|VS233|VS234|VS235|VS236;E01DC :VS237|VS238|VS239|VS240|VS241;
E01E1 :VS242|VS243|VS244|VS245|VS246;E01E6 :VS247|VS248|VS249|VS250|VS251;E01EB :VS252|VS253|VS254|VS255|VS256;
1 :START OF HEADING;2 :STX|ETX|EOT|ENQUIRY|ACKNOWLEDGE;7 :BEL|BS|HORIZONTAL TABULATION|EOL|VERTICAL TABULATION;
C :FORM FEED|CR|SHIFT OUT|SHIFT IN|DLE;11 DEVICE CONTROL :ONE|TWO|THREE|FOUR;15 :NEGATIVE ACKNOWLEDGE;
16 :SYNCHRONOUS IDLE|ETB|CANCEL|EOM|SUBSTITUTE;1B :ESCAPE|FS|GS|RECORD SEPARATOR|UNIT SEPARATOR;7F :DELETE|
PADDING CHARACTER|HOP|BREAK PERMITTED HERE;83 :NO BREAK HERE|INDEX|NEXT LINE|START OF SELECTED AREA|ESA;
88 HORIZONTAL TABULATION :SET|WITH JUSTIFICATION;8A :VERTICAL TABULATION SET|PARTIAL LINE FORWARD|
PARTIAL LINE UP|REVERSE LINE FEED;8E SINGLE-SHIFT-:2|3;90 :DEVICE CONTROL STRING|PRIVATE USE-1|PRIVATE USE-2|
STS;94 :CCH|MW|START OF GUARDED AREA|END OF PROTECTED AREA|START OF STRING;
99 SINGLE :GRAPHIC CHARACTER INTRODUCER|CHARACTER INTRODUCER;9B :CSI|STRING TERMINATOR|OSC|PRIVACY MESSAGE|
APPLICATION PROGRAM COMMAND;FEFF :BYTE ORDER MARK;9 :HT|LF|VT;E :SO|SI;1C INFORMATION SEPARATOR :FOUR|THREE;
1E :RS|US;88 :HTS|HTJ|VTS;8B :PLD|PLU|RI|SS2|SS3;91 :PU1|PU2;96 :START OF PROTECTED AREA|EPA;FEFF :ZWNBSP;
9 :TAB|LINE FEED;A :NEW LINE;A :NL;"

end Winnow.Text.CharacterName
