/-!
# Names in the general scripts

The characters below U+2000: the alphabets and syllabaries of everyday writing.
Each listing begins with the code point of its first character; how its names are written
is said where they are read.
-/

namespace SourceLedger.CharacterName

/-- The listings, in the order of their code points. -/
def generalScripts : List (Nat × String) := [
  (0x20, "aSPACEaEXCLAMATION MARKaQUOTATION MARKaNUMBER SIGNaDOLLAR SIGNaPERCENT SIGNaAMPERSAND
aAPOSTROPHEaLEFT PARENTHESISaRIGHT PARENTHESISaASTERISKaPLUS SIGNaCOMMAaHYPHEN-MINUSaFULL STOP
aSOLIDUSaDIGIT ZERObONEbTWObTHREEbFOURbFIVEbSIXbSEVENbEIGHTbNINEaCOLONaSEMICOLONaLESS-THAN SIGN
aEQUALS SIGNaGREATER-THAN SIGNaQUESTION MARKaCOMMERCIAL ATaLATIN CAPITAL LETTER AdBdCdDdEdFdGdH
dIdJdKdLdMdNdOdPdQdRdSdTdUdVdWdXdYdZaLEFT SQUARE BRACKETaREVERSE SOLIDUSaRIGHT SQUARE BRACKET
aCIRCUMFLEX ACCENTaLOW LINEaGRAVE ACCENTaLATIN SMALL LETTER AdBdCdDdEdFdGdHdIdJdKdLdMdNdOdPdQdR
dSdTdUdVdWdXdYdZaLEFT CURLY BRACKETaVERTICAL LINEaRIGHT CURLY BRACKETaTILDE"),
  (0xA0, "aNO-BREAK SPACEaINVERTED EXCLAMATION MARKaCENT SIGNaPOUND SIGNaCURRENCY SIGNaYEN SIGN
aBROKEN BARaSECTION SIGNaDIAERESISaCOPYRIGHT SIGNaFEMININE ORDINAL INDICATOR
aLEFT-POINTING DOUBLE ANGLE QUOTATION MARKaNOT SIGNaSOFT HYPHENaREGISTERED SIGNaMACRON
aDEGREE SIGNaPLUS-MINUS SIGNaSUPERSCRIPT TWObTHREEaACUTE ACCENTaMICRO SIGNaPILCROW SIGN
aMIDDLE DOTaCEDILLAaSUPERSCRIPT ONEaMASCULINE ORDINAL INDICATOR
aRIGHT-POINTING DOUBLE ANGLE QUOTATION MARKaVULGAR FRACTION ONE QUARTERdHALFcTHREE QUARTERS
aINVERTED QUESTION MARKaLATIN CAPITAL LETTER A WITH GRAVEfACUTEfCIRCUMFLEXfTILDEfDIAERESIS
fRING ABOVEdAEdC WITH CEDILLAdE WITH GRAVEfACUTEfCIRCUMFLEXfDIAERESISdI WITH GRAVEfACUTE
fCIRCUMFLEXfDIAERESISdETHdN WITH TILDEdO WITH GRAVEfACUTEfCIRCUMFLEXfTILDEfDIAERESIS
aMULTIPLICATION SIGNaLATIN CAPITAL LETTER O WITH STROKEdU WITH GRAVEfACUTEfCIRCUMFLEXfDIAERESIS
dY WITH ACUTEdTHORNbSMALL LETTER SHARP SdA WITH GRAVEfACUTEfCIRCUMFLEXfTILDEfDIAERESIS
fRING ABOVEdAEdC WITH CEDILLAdE WITH GRAVEfACUTEfCIRCUMFLEXfDIAERESISdI WITH GRAVEfACUTE
fCIRCUMFLEXfDIAERESISdETHdN WITH TILDEdO WITH GRAVEfACUTEfCIRCUMFLEXfTILDEfDIAERESIS
aDIVISION SIGNaLATIN SMALL LETTER O WITH STROKEdU WITH GRAVEfACUTEfCIRCUMFLEXfDIAERESIS
dY WITH ACUTEdTHORNdY WITH DIAERESISbCAPITAL LETTER A WITH MACRONbSMALL LETTER A WITH MACRON
bCAPITAL LETTER A WITH BREVEbSMALL LETTER A WITH BREVEbCAPITAL LETTER A WITH OGONEK
bSMALL LETTER A WITH OGONEKbCAPITAL LETTER C WITH ACUTEbSMALL LETTER C WITH ACUTE
bCAPITAL LETTER C WITH CIRCUMFLEXbSMALL LETTER C WITH CIRCUMFLEXbCAPITAL LETTER C WITH DOT ABOVE
bSMALL LETTER C WITH DOT ABOVEbCAPITAL LETTER C WITH CARONbSMALL LETTER C WITH CARON
bCAPITAL LETTER D WITH CARONbSMALL LETTER D WITH CARONbCAPITAL LETTER D WITH STROKE
bSMALL LETTER D WITH STROKEbCAPITAL LETTER E WITH MACRONbSMALL LETTER E WITH MACRON
bCAPITAL LETTER E WITH BREVEbSMALL LETTER E WITH BREVEbCAPITAL LETTER E WITH DOT ABOVE
bSMALL LETTER E WITH DOT ABOVEbCAPITAL LETTER E WITH OGONEKbSMALL LETTER E WITH OGONEK
bCAPITAL LETTER E WITH CARONbSMALL LETTER E WITH CARONbCAPITAL LETTER G WITH CIRCUMFLEX
bSMALL LETTER G WITH CIRCUMFLEXbCAPITAL LETTER G WITH BREVEbSMALL LETTER G WITH BREVE
bCAPITAL LETTER G WITH DOT ABOVEbSMALL LETTER G WITH DOT ABOVEbCAPITAL LETTER G WITH CEDILLA
bSMALL LETTER G WITH CEDILLAbCAPITAL LETTER H WITH CIRCUMFLEXbSMALL LETTER H WITH CIRCUMFLEX
bCAPITAL LETTER H WITH STROKEbSMALL LETTER H WITH STROKEbCAPITAL LETTER I WITH TILDE
bSMALL LETTER I WITH TILDEbCAPITAL LETTER I WITH MACRONbSMALL LETTER I WITH MACRON
bCAPITAL LETTER I WITH BREVEbSMALL LETTER I WITH BREVEbCAPITAL LETTER I WITH OGONEK
bSMALL LETTER I WITH OGONEKbCAPITAL LETTER I WITH DOT ABOVEbSMALL LETTER DOTLESS I
bCAPITAL LIGATURE IJbSMALL LIGATURE IJbCAPITAL LETTER J WITH CIRCUMFLEX
bSMALL LETTER J WITH CIRCUMFLEXbCAPITAL LETTER K WITH CEDILLAbSMALL LETTER K WITH CEDILLAdKRA
bCAPITAL LETTER L WITH ACUTEbSMALL LETTER L WITH ACUTEbCAPITAL LETTER L WITH CEDILLA
bSMALL LETTER L WITH CEDILLAbCAPITAL LETTER L WITH CARONbSMALL LETTER L WITH CARON
bCAPITAL LETTER L WITH MIDDLE DOTbSMALL LETTER L WITH MIDDLE DOTbCAPITAL LETTER L WITH STROKE
bSMALL LETTER L WITH STROKEbCAPITAL LETTER N WITH ACUTEbSMALL LETTER N WITH ACUTE
bCAPITAL LETTER N WITH CEDILLAbSMALL LETTER N WITH CEDILLAbCAPITAL LETTER N WITH CARON
bSMALL LETTER N WITH CARONePRECEDED BY APOSTROPHEbCAPITAL LETTER ENGbSMALL LETTER ENG
bCAPITAL LETTER O WITH MACRONbSMALL LETTER O WITH MACRONbCAPITAL LETTER O WITH BREVE
bSMALL LETTER O WITH BREVEbCAPITAL LETTER O WITH DOUBLE ACUTEbSMALL LETTER O WITH DOUBLE ACUTE
bCAPITAL LIGATURE OEbSMALL LIGATURE OEbCAPITAL LETTER R WITH ACUTEbSMALL LETTER R WITH ACUTE
bCAPITAL LETTER R WITH CEDILLAbSMALL LETTER R WITH CEDILLAbCAPITAL LETTER R WITH CARON
bSMALL LETTER R WITH CARONbCAPITAL LETTER S WITH ACUTEbSMALL LETTER S WITH ACUTE
bCAPITAL LETTER S WITH CIRCUMFLEXbSMALL LETTER S WITH CIRCUMFLEXbCAPITAL LETTER S WITH CEDILLA
bSMALL LETTER S WITH CEDILLAbCAPITAL LETTER S WITH CARONbSMALL LETTER S WITH CARON
bCAPITAL LETTER T WITH CEDILLAbSMALL LETTER T WITH CEDILLAbCAPITAL LETTER T WITH CARON
bSMALL LETTER T WITH CARONbCAPITAL LETTER T WITH STROKEbSMALL LETTER T WITH STROKE
bCAPITAL LETTER U WITH TILDEbSMALL LETTER U WITH TILDEbCAPITAL LETTER U WITH MACRON
bSMALL LETTER U WITH MACRONbCAPITAL LETTER U WITH BREVEbSMALL LETTER U WITH BREVE
bCAPITAL LETTER U WITH RING ABOVEbSMALL LETTER U WITH RING ABOVE
bCAPITAL LETTER U WITH DOUBLE ACUTEbSMALL LETTER U WITH DOUBLE ACUTE
bCAPITAL LETTER U WITH OGONEKbSMALL LETTER U WITH OGONEKbCAPITAL LETTER W WITH CIRCUMFLEX
bSMALL LETTER W WITH CIRCUMFLEXbCAPITAL LETTER Y WITH CIRCUMFLEXbSMALL LETTER Y WITH CIRCUMFLEX
bCAPITAL LETTER Y WITH DIAERESISdZ WITH ACUTEbSMALL LETTER Z WITH ACUTE
bCAPITAL LETTER Z WITH DOT ABOVEbSMALL LETTER Z WITH DOT ABOVEbCAPITAL LETTER Z WITH CARON
bSMALL LETTER Z WITH CARONdLONG SdB WITH STROKEbCAPITAL LETTER B WITH HOOKfTOPBAR
bSMALL LETTER B WITH TOPBARbCAPITAL LETTER TONE SIXbSMALL LETTER TONE SIXbCAPITAL LETTER OPEN O
dC WITH HOOKbSMALL LETTER C WITH HOOKbCAPITAL LETTER AFRICAN DdD WITH HOOKfTOPBAR
bSMALL LETTER D WITH TOPBARdTURNED DELTAbCAPITAL LETTER REVERSED EdSCHWAdOPEN EdF WITH HOOK
bSMALL LETTER F WITH HOOKbCAPITAL LETTER G WITH HOOKdGAMMAbSMALL LETTER HVbCAPITAL LETTER IOTA
dI WITH STROKEdK WITH HOOKbSMALL LETTER K WITH HOOKdL WITH BARdLAMBDA WITH STROKE
bCAPITAL LETTER TURNED MdN WITH LEFT HOOKbSMALL LETTER N WITH LONG RIGHT LEG
bCAPITAL LETTER O WITH MIDDLE TILDEfHORNbSMALL LETTER O WITH HORNbCAPITAL LETTER OI
bSMALL LETTER OIbCAPITAL LETTER P WITH HOOKbSMALL LETTER P WITH HOOKbLETTER YR
bCAPITAL LETTER TONE TWObSMALL LETTER TONE TWObCAPITAL LETTER ESHbLETTER REVERSED ESH LOOP
bSMALL LETTER T WITH PALATAL HOOKbCAPITAL LETTER T WITH HOOKbSMALL LETTER T WITH HOOK
bCAPITAL LETTER T WITH RETROFLEX HOOKdU WITH HORNbSMALL LETTER U WITH HORN
bCAPITAL LETTER UPSILONdV WITH HOOKdY WITH HOOKbSMALL LETTER Y WITH HOOK
bCAPITAL LETTER Z WITH STROKEbSMALL LETTER Z WITH STROKEbCAPITAL LETTER EZHeREVERSED
bSMALL LETTER EZH REVERSEDeWITH TAILbLETTER TWO WITH STROKEbCAPITAL LETTER TONE FIVE
bSMALL LETTER TONE FIVEbLETTER INVERTED GLOTTAL STOP WITH STROKEcWYNNcDENTAL CLICKcLATERAL CLICK
cALVEOLAR CLICKcRETROFLEX CLICKbCAPITAL LETTER DZ WITH CARONdD WITH SMALL LETTER Z WITH CARON
bSMALL LETTER DZ WITH CARONbCAPITAL LETTER LJdL WITH SMALL LETTER JbSMALL LETTER LJ
bCAPITAL LETTER NJdN WITH SMALL LETTER JbSMALL LETTER NJbCAPITAL LETTER A WITH CARON
bSMALL LETTER A WITH CARONbCAPITAL LETTER I WITH CARONbSMALL LETTER I WITH CARON
bCAPITAL LETTER O WITH CARONbSMALL LETTER O WITH CARONbCAPITAL LETTER U WITH CARON
bSMALL LETTER U WITH CARONbCAPITAL LETTER U WITH DIAERESIS AND MACRON
bSMALL LETTER U WITH DIAERESIS AND MACRONbCAPITAL LETTER U WITH DIAERESIS AND ACUTE
bSMALL LETTER U WITH DIAERESIS AND ACUTEbCAPITAL LETTER U WITH DIAERESIS AND CARON
bSMALL LETTER U WITH DIAERESIS AND CARONbCAPITAL LETTER U WITH DIAERESIS AND GRAVE
bSMALL LETTER U WITH DIAERESIS AND GRAVEdTURNED EbCAPITAL LETTER A WITH DIAERESIS AND MACRON
bSMALL LETTER A WITH DIAERESIS AND MACRONbCAPITAL LETTER A WITH DOT ABOVE AND MACRON
bSMALL LETTER A WITH DOT ABOVE AND MACRONbCAPITAL LETTER AE WITH MACRON
bSMALL LETTER AE WITH MACRONbCAPITAL LETTER G WITH STROKEbSMALL LETTER G WITH STROKE
bCAPITAL LETTER G WITH CARONbSMALL LETTER G WITH CARONbCAPITAL LETTER K WITH CARON
bSMALL LETTER K WITH CARONbCAPITAL LETTER O WITH OGONEKbSMALL LETTER O WITH OGONEK
bCAPITAL LETTER O WITH OGONEK AND MACRONbSMALL LETTER O WITH OGONEK AND MACRON
bCAPITAL LETTER EZH WITH CARONbSMALL LETTER EZH WITH CARONdJ WITH CARONbCAPITAL LETTER DZ
dD WITH SMALL LETTER ZbSMALL LETTER DZbCAPITAL LETTER G WITH ACUTEbSMALL LETTER G WITH ACUTE
bCAPITAL LETTER HWAIRdWYNNdN WITH GRAVEbSMALL LETTER N WITH GRAVE
bCAPITAL LETTER A WITH RING ABOVE AND ACUTEbSMALL LETTER A WITH RING ABOVE AND ACUTE
bCAPITAL LETTER AE WITH ACUTEbSMALL LETTER AE WITH ACUTEbCAPITAL LETTER O WITH STROKE AND ACUTE
bSMALL LETTER O WITH STROKE AND ACUTEbCAPITAL LETTER A WITH DOUBLE GRAVE
bSMALL LETTER A WITH DOUBLE GRAVEbCAPITAL LETTER A WITH INVERTED BREVE
bSMALL LETTER A WITH INVERTED BREVEbCAPITAL LETTER E WITH DOUBLE GRAVE
bSMALL LETTER E WITH DOUBLE GRAVEbCAPITAL LETTER E WITH INVERTED BREVE
bSMALL LETTER E WITH INVERTED BREVEbCAPITAL LETTER I WITH DOUBLE GRAVE
bSMALL LETTER I WITH DOUBLE GRAVEbCAPITAL LETTER I WITH INVERTED BREVE
bSMALL LETTER I WITH INVERTED BREVEbCAPITAL LETTER O WITH DOUBLE GRAVE
bSMALL LETTER O WITH DOUBLE GRAVEbCAPITAL LETTER O WITH INVERTED BREVE
bSMALL LETTER O WITH INVERTED BREVEbCAPITAL LETTER R WITH DOUBLE GRAVE
bSMALL LETTER R WITH DOUBLE GRAVEbCAPITAL LETTER R WITH INVERTED BREVE
bSMALL LETTER R WITH INVERTED BREVEbCAPITAL LETTER U WITH DOUBLE GRAVE
bSMALL LETTER U WITH DOUBLE GRAVEbCAPITAL LETTER U WITH INVERTED BREVE
bSMALL LETTER U WITH INVERTED BREVEbCAPITAL LETTER S WITH COMMA BELOW
bSMALL LETTER S WITH COMMA BELOWbCAPITAL LETTER T WITH COMMA BELOW
bSMALL LETTER T WITH COMMA BELOWbCAPITAL LETTER YOGHbSMALL LETTER YOGH
bCAPITAL LETTER H WITH CARONbSMALL LETTER H WITH CARONbCAPITAL LETTER N WITH LONG RIGHT LEG
bSMALL LETTER D WITH CURLbCAPITAL LETTER OUbSMALL LETTER OUbCAPITAL LETTER Z WITH HOOK
bSMALL LETTER Z WITH HOOKbCAPITAL LETTER A WITH DOT ABOVEbSMALL LETTER A WITH DOT ABOVE
bCAPITAL LETTER E WITH CEDILLAbSMALL LETTER E WITH CEDILLA
bCAPITAL LETTER O WITH DIAERESIS AND MACRONbSMALL LETTER O WITH DIAERESIS AND MACRON
bCAPITAL LETTER O WITH TILDE AND MACRONbSMALL LETTER O WITH TILDE AND MACRON
bCAPITAL LETTER O WITH DOT ABOVEbSMALL LETTER O WITH DOT ABOVE
bCAPITAL LETTER O WITH DOT ABOVE AND MACRONbSMALL LETTER O WITH DOT ABOVE AND MACRON
bCAPITAL LETTER Y WITH MACRONbSMALL LETTER Y WITH MACRONdL WITH CURLdN WITH CURLdT WITH CURL
dDOTLESS JdDB DIGRAPHdQP DIGRAPHbCAPITAL LETTER A WITH STROKEdC WITH STROKE
bSMALL LETTER C WITH STROKEbCAPITAL LETTER L WITH BARdT WITH DIAGONAL STROKE
bSMALL LETTER S WITH SWASH TAILdZ WITH SWASH TAILbCAPITAL LETTER GLOTTAL STOP
bSMALL LETTER GLOTTAL STOPbCAPITAL LETTER B WITH STROKEdU BARdTURNED VdE WITH STROKE
bSMALL LETTER E WITH STROKEbCAPITAL LETTER J WITH STROKEbSMALL LETTER J WITH STROKE
bCAPITAL LETTER SMALL Q WITH HOOK TAILbSMALL LETTER Q WITH HOOK TAIL
bCAPITAL LETTER R WITH STROKEbSMALL LETTER R WITH STROKEbCAPITAL LETTER Y WITH STROKE
bSMALL LETTER Y WITH STROKEdTURNED AdALPHAdTURNED ALPHAdB WITH HOOKdOPEN OdC WITH CURL
dD WITH TAILfHOOKdREVERSED EdSCHWAeWITH HOOKdOPEN EdREVERSED OPEN EgWITH HOOK
dCLOSED REVERSED OPEN EdDOTLESS J WITH STROKEdG WITH HOOKdSCRIPT GbLETTER SMALL CAPITAL G
bSMALL LETTER GAMMAdRAMS HORNdTURNED HdH WITH HOOKdHENG WITH HOOKdI WITH STROKEdIOTA
bLETTER SMALL CAPITAL IbSMALL LETTER L WITH MIDDLE TILDEfBELTfRETROFLEX HOOKdLEZHdTURNED M
fWITH LONG LEGdM WITH HOOKdN WITH LEFT HOOKfRETROFLEX HOOKbLETTER SMALL CAPITAL N
bSMALL LETTER BARRED ObLETTER SMALL CAPITAL OEbSMALL LETTER CLOSED OMEGAdPHIdTURNED R
fWITH LONG LEGgHOOKdR WITH LONG LEGfTAILfFISHHOOKdREVERSED R WITH FISHHOOK
bLETTER SMALL CAPITAL ReINVERTED RbSMALL LETTER S WITH HOOKdESHdDOTLESS J WITH STROKE AND HOOK
dSQUAT REVERSED ESHdESH WITH CURLdTURNED TdT WITH RETROFLEX HOOKdU BARdUPSILONdV WITH HOOK
dTURNED VeWeYbLETTER SMALL CAPITAL YbSMALL LETTER Z WITH RETROFLEX HOOKfCURLdEZHeWITH CURL
bLETTER GLOTTAL STOPcPHARYNGEAL VOICED FRICATIVEcINVERTED GLOTTAL STOPcSTRETCHED C
cBILABIAL CLICKcSMALL CAPITAL BbSMALL LETTER CLOSED OPEN EbLETTER SMALL CAPITAL G WITH HOOKeH
bSMALL LETTER J WITH CROSSED-TAILdTURNED KbLETTER SMALL CAPITAL LbSMALL LETTER Q WITH HOOK
bLETTER GLOTTAL STOP WITH STROKEcREVERSED GLOTTAL STOP WITH STROKEbSMALL LETTER DZ DIGRAPH
dDEZH DIGRAPHdDZ DIGRAPH WITH CURLdTS DIGRAPHdTESH DIGRAPHdTC DIGRAPH WITH CURLdFENG DIGRAPH
dLS DIGRAPHdLZ DIGRAPHbLETTER BILABIAL PERCUSSIVEcBIDENTAL PERCUSSIVE
bSMALL LETTER TURNED H WITH FISHHOOKhAND TAILaMODIFIER LETTER SMALL HeWITH HOOKdJdRdTURNED R
fWITH HOOKdCAPITAL INVERTED RdWdYcPRIMEcDOUBLE PRIMEcTURNED COMMAcAPOSTROPHEcREVERSED COMMA
cRIGHT HALF RINGcLEFT HALF RINGcGLOTTAL STOPcREVERSED GLOTTAL STOPcLEFT ARROWHEAD
cRIGHT ARROWHEADcUP ARROWHEADcDOWN ARROWHEADcCIRCUMFLEX ACCENTaCARON
aMODIFIER LETTER VERTICAL LINEcMACRONcACUTE ACCENTcGRAVE ACCENTcLOW VERTICAL LINEdMACRON
dGRAVE ACCENTdACUTE ACCENTcTRIANGULAR COLONcHALF TRIANGULAR COLONcCENTRED RIGHT HALF RING
dLEFT HALF RINGcUP TACKcDOWN TACKcPLUS SIGNcMINUS SIGNaBREVEaDOT ABOVEaRING ABOVEaOGONEK
aSMALL TILDEaDOUBLE ACUTE ACCENTaMODIFIER LETTER RHOTIC HOOKcCROSS ACCENTcSMALL GAMMAdLdSdX
dREVERSED GLOTTAL STOPcEXTRA-HIGH TONE BARcHIGH TONE BARcMID TONE BARcLOW TONE BAR
cEXTRA-LOW TONE BARcYIN DEPARTING TONE MARKcYANG DEPARTING TONE MARKcVOICINGcUNASPIRATED
cDOUBLE APOSTROPHEcLOW DOWN ARROWHEADdUP ARROWHEADdLEFT ARROWHEADdRIGHT ARROWHEADdRING
cMIDDLE GRAVE ACCENTdDOUBLE GRAVE ACCENTeACUTE ACCENTcLOW TILDEcRAISED COLONcBEGIN HIGH TONE
cEND HIGH TONEcBEGIN LOW TONEcEND LOW TONEcSHELFcOPEN SHELFcLOW LEFT ARROW
aCOMBINING GRAVE ACCENTbACUTE ACCENTbCIRCUMFLEX ACCENTbTILDEbMACRONbOVERLINEbBREVEbDOT ABOVE
bDIAERESISbHOOK ABOVEbRING ABOVEbDOUBLE ACUTE ACCENTbCARONbVERTICAL LINE ABOVE
bDOUBLE VERTICAL LINE ABOVEcGRAVE ACCENTbCANDRABINDUbINVERTED BREVEbTURNED COMMA ABOVE
bCOMMA ABOVEbREVERSED COMMA ABOVEbCOMMA ABOVE RIGHTbGRAVE ACCENT BELOWbACUTE ACCENT BELOW
bLEFT TACK BELOWbRIGHT TACK BELOWbLEFT ANGLE ABOVEbHORNbLEFT HALF RING BELOWbUP TACK BELOW
bDOWN TACK BELOWbPLUS SIGN BELOWbMINUS SIGN BELOWbPALATALIZED HOOK BELOWbRETROFLEX HOOK BELOW
bDOT BELOWbDIAERESIS BELOWbRING BELOWbCOMMA BELOWbCEDILLAbOGONEKbVERTICAL LINE BELOW
bBRIDGE BELOWbINVERTED DOUBLE ARCH BELOWbCARON BELOWbCIRCUMFLEX ACCENT BELOWbBREVE BELOW
bINVERTED BREVE BELOWbTILDE BELOWbMACRON BELOWbLOW LINEbDOUBLE LOW LINEbTILDE OVERLAY
bSHORT STROKE OVERLAYbLONG STROKE OVERLAYbSHORT SOLIDUS OVERLAYbLONG SOLIDUS OVERLAY
bRIGHT HALF RING BELOWbINVERTED BRIDGE BELOWbSQUARE BELOWbSEAGULL BELOWbX ABOVEbVERTICAL TILDE
bDOUBLE OVERLINEbGRAVE TONE MARKbACUTE TONE MARKbGREEK PERISPOMENIcKORONIScDIALYTIKA TONOS
cYPOGEGRAMMENIbBRIDGE ABOVEbEQUALS SIGN BELOWbDOUBLE VERTICAL LINE BELOWbLEFT ANGLE BELOW
bNOT TILDE ABOVEbHOMOTHETIC ABOVEbALMOST EQUAL TO ABOVEbLEFT RIGHT ARROW BELOW
bUPWARDS ARROW BELOWbGRAPHEME JOINERbRIGHT ARROWHEAD ABOVEbLEFT HALF RING ABOVEbFERMATAbX BELOW
bLEFT ARROWHEAD BELOWbRIGHT ARROWHEAD BELOWdAND UP ARROWHEAD BELOWcHALF RING ABOVE
bDOT ABOVE RIGHTbASTERISK BELOWbDOUBLE RING BELOWbZIGZAG ABOVEbDOUBLE BREVE BELOWdcMACRONdBELOW
cTILDEcINVERTED BREVEcRIGHTWARDS ARROW BELOWbLATIN SMALL LETTER AeEeIeOeUeCeDeHeMeReTeVeX
aGREEK CAPITAL LETTER HETAbSMALL LETTER HETAbCAPITAL LETTER ARCHAIC SAMPI
bSMALL LETTER ARCHAIC SAMPIbNUMERAL SIGNbLOWER NUMERAL SIGNbCAPITAL LETTER PAMPHYLIAN DIGAMMA
bSMALL LETTER PAMPHYLIAN DIGAMMA"),
  (0x37A, "aGREEK YPOGEGRAMMENIbSMALL REVERSED LUNATE SIGMA SYMBOLcDOTTED LUNATE SIGMA SYMBOL
cREVERSED DOTTED LUNATE SIGMA SYMBOLbQUESTION MARKbCAPITAL LETTER YOT"),
  (0x384, "aGREEK TONOSbDIALYTIKA TONOSbCAPITAL LETTER ALPHA WITH TONOSbANO TELEIA
bCAPITAL LETTER EPSILON WITH TONOSdETA WITH TONOSdIOTA WITH TONOS"),
  (0x38C, "aGREEK CAPITAL LETTER OMICRON WITH TONOS"),
  (0x38E, "aGREEK CAPITAL LETTER UPSILON WITH TONOSdOMEGA WITH TONOS
bSMALL LETTER IOTA WITH DIALYTIKA AND TONOSbCAPITAL LETTER ALPHAdBETAdGAMMAdDELTAdEPSILONdZETA
dETAdTHETAdIOTAdKAPPAdLAMDAdMUdNUdXIdOMICRONdPIdRHO"),
  (0x3A3, "aGREEK CAPITAL LETTER SIGMAdTAUdUPSILONdPHIdCHIdPSIdOMEGAdIOTA WITH DIALYTIKA
dUPSILON WITH DIALYTIKAbSMALL LETTER ALPHA WITH TONOSdEPSILON WITH TONOSdETA WITH TONOS
dIOTA WITH TONOSdUPSILON WITH DIALYTIKA AND TONOSdALPHAdBETAdGAMMAdDELTAdEPSILONdZETAdETAdTHETA
dIOTAdKAPPAdLAMDAdMUdNUdXIdOMICRONdPIdRHOdFINAL SIGMAdSIGMAdTAUdUPSILONdPHIdCHIdPSIdOMEGA
dIOTA WITH DIALYTIKAdUPSILON WITH DIALYTIKAdOMICRON WITH TONOSdUPSILON WITH TONOS
dOMEGA WITH TONOSbCAPITAL KAI SYMBOLbBETA SYMBOLbTHETA SYMBOLbUPSILON WITH HOOK SYMBOL
dACUTE AND HOOK SYMBOLdDIAERESIS AND HOOK SYMBOLbPHI SYMBOLbPI SYMBOLbKAI SYMBOL
bLETTER ARCHAIC KOPPAbSMALL LETTER ARCHAIC KOPPAbLETTER STIGMAbSMALL LETTER STIGMA
bLETTER DIGAMMAbSMALL LETTER DIGAMMAbLETTER KOPPAbSMALL LETTER KOPPAbLETTER SAMPI
bSMALL LETTER SAMPIaCOPTIC CAPITAL LETTER SHEIbSMALL LETTER SHEIbCAPITAL LETTER FEI
bSMALL LETTER FEIbCAPITAL LETTER KHEIbSMALL LETTER KHEIbCAPITAL LETTER HORIbSMALL LETTER HORI
bCAPITAL LETTER GANGIAbSMALL LETTER GANGIAbCAPITAL LETTER SHIMAbSMALL LETTER SHIMA
bCAPITAL LETTER DEIbSMALL LETTER DEIaGREEK KAPPA SYMBOLbRHO SYMBOLbLUNATE SIGMA SYMBOL
bLETTER YOTbCAPITAL THETA SYMBOLbLUNATE EPSILON SYMBOLbREVERSED LUNATE EPSILON SYMBOL
bCAPITAL LETTER SHObSMALL LETTER SHObCAPITAL LUNATE SIGMA SYMBOLcLETTER SANbSMALL LETTER SAN
bRHO WITH STROKE SYMBOLbCAPITAL REVERSED LUNATE SIGMA SYMBOLcDOTTED LUNATE SIGMA SYMBOL
cREVERSED DOTTED LUNATE SIGMA SYMBOLaCYRILLIC CAPITAL LETTER IE WITH GRAVEdIOdDJEdGJE
dUKRAINIAN IEdDZEdBYELORUSSIAN-UKRAINIAN IdYIdJEdLJEdNJEdTSHEdKJEdI WITH GRAVEdSHORT UdDZHEdAdBE
dVEdGHEdDEdIEdZHEdZEdIdSHORT IdKAdELdEMdENdOdPEdERdESdTEdUdEFdHAdTSEdCHEdSHAdSHCHAdHARD SIGN
dYERUdSOFT SIGNdEdYUdYAbSMALL LETTER AdBEdVEdGHEdDEdIEdZHEdZEdIdSHORT IdKAdELdEMdENdOdPEdERdES
dTEdUdEFdHAdTSEdCHEdSHAdSHCHAdHARD SIGNdYERUdSOFT SIGNdEdYUdYAdIE WITH GRAVEdIOdDJEdGJE
dUKRAINIAN IEdDZEdBYELORUSSIAN-UKRAINIAN IdYIdJEdLJEdNJEdTSHEdKJEdI WITH GRAVEdSHORT UdDZHE
bCAPITAL LETTER OMEGAbSMALL LETTER OMEGAbCAPITAL LETTER YATbSMALL LETTER YAT
bCAPITAL LETTER IOTIFIED EbSMALL LETTER IOTIFIED EbCAPITAL LETTER LITTLE YUS
bSMALL LETTER LITTLE YUSbCAPITAL LETTER IOTIFIED LITTLE YUSbSMALL LETTER IOTIFIED LITTLE YUS
bCAPITAL LETTER BIG YUSbSMALL LETTER BIG YUSbCAPITAL LETTER IOTIFIED BIG YUS
bSMALL LETTER IOTIFIED BIG YUSbCAPITAL LETTER KSIbSMALL LETTER KSIbCAPITAL LETTER PSI
bSMALL LETTER PSIbCAPITAL LETTER FITAbSMALL LETTER FITAbCAPITAL LETTER IZHITSA
bSMALL LETTER IZHITSAbCAPITAL LETTER IZHITSA WITH DOUBLE GRAVE ACCENT
bSMALL LETTER IZHITSA WITH DOUBLE GRAVE ACCENTbCAPITAL LETTER UKbSMALL LETTER UK
bCAPITAL LETTER ROUND OMEGAbSMALL LETTER ROUND OMEGAbCAPITAL LETTER OMEGA WITH TITLO
bSMALL LETTER OMEGA WITH TITLObCAPITAL LETTER OTbSMALL LETTER OTbCAPITAL LETTER KOPPA
bSMALL LETTER KOPPAbTHOUSANDS SIGNaCOMBINING CYRILLIC TITLOcPALATALIZATIONcDASIA PNEUMATA
cPSILI PNEUMATAcPOKRYTIEcHUNDRED THOUSANDS SIGNcMILLIONS SIGN
aCYRILLIC CAPITAL LETTER SHORT I WITH TAILbSMALL LETTER SHORT I WITH TAIL
bCAPITAL LETTER SEMISOFT SIGNbSMALL LETTER SEMISOFT SIGNbCAPITAL LETTER ER WITH TICK
bSMALL LETTER ER WITH TICKbCAPITAL LETTER GHE WITH UPTURNbSMALL LETTER GHE WITH UPTURN
bCAPITAL LETTER GHE WITH STROKEbSMALL LETTER GHE WITH STROKEbCAPITAL LETTER GHE WITH MIDDLE HOOK
bSMALL LETTER GHE WITH MIDDLE HOOKbCAPITAL LETTER ZHE WITH DESCENDER
bSMALL LETTER ZHE WITH DESCENDERbCAPITAL LETTER ZE WITH DESCENDERbSMALL LETTER ZE WITH DESCENDER
bCAPITAL LETTER KA WITH DESCENDERbSMALL LETTER KA WITH DESCENDER
bCAPITAL LETTER KA WITH VERTICAL STROKEbSMALL LETTER KA WITH VERTICAL STROKE
bCAPITAL LETTER KA WITH STROKEbSMALL LETTER KA WITH STROKEbCAPITAL LETTER BASHKIR KA
bSMALL LETTER BASHKIR KAbCAPITAL LETTER EN WITH DESCENDERbSMALL LETTER EN WITH DESCENDER
bCAPITAL LIGATURE EN GHEbSMALL LIGATURE EN GHEbCAPITAL LETTER PE WITH MIDDLE HOOK
bSMALL LETTER PE WITH MIDDLE HOOKbCAPITAL LETTER ABKHASIAN HAbSMALL LETTER ABKHASIAN HA
bCAPITAL LETTER ES WITH DESCENDERbSMALL LETTER ES WITH DESCENDER
bCAPITAL LETTER TE WITH DESCENDERbSMALL LETTER TE WITH DESCENDERbCAPITAL LETTER STRAIGHT U
bSMALL LETTER STRAIGHT UbCAPITAL LETTER STRAIGHT U WITH STROKE
bSMALL LETTER STRAIGHT U WITH STROKEbCAPITAL LETTER HA WITH DESCENDER
bSMALL LETTER HA WITH DESCENDERbCAPITAL LIGATURE TE TSEbSMALL LIGATURE TE TSE
bCAPITAL LETTER CHE WITH DESCENDERbSMALL LETTER CHE WITH DESCENDER
bCAPITAL LETTER CHE WITH VERTICAL STROKEbSMALL LETTER CHE WITH VERTICAL STROKE
bCAPITAL LETTER SHHAbSMALL LETTER SHHAbCAPITAL LETTER ABKHASIAN CHEbSMALL LETTER ABKHASIAN CHE
bCAPITAL LETTER ABKHASIAN CHE WITH DESCENDERbSMALL LETTER ABKHASIAN CHE WITH DESCENDER
bLETTER PALOCHKAbCAPITAL LETTER ZHE WITH BREVEbSMALL LETTER ZHE WITH BREVE
bCAPITAL LETTER KA WITH HOOKbSMALL LETTER KA WITH HOOKbCAPITAL LETTER EL WITH TAIL
bSMALL LETTER EL WITH TAILbCAPITAL LETTER EN WITH HOOKbSMALL LETTER EN WITH HOOK
bCAPITAL LETTER EN WITH TAILbSMALL LETTER EN WITH TAILbCAPITAL LETTER KHAKASSIAN CHE
bSMALL LETTER KHAKASSIAN CHEbCAPITAL LETTER EM WITH TAILbSMALL LETTER EM WITH TAILdPALOCHKA
bCAPITAL LETTER A WITH BREVEbSMALL LETTER A WITH BREVEbCAPITAL LETTER A WITH DIAERESIS
bSMALL LETTER A WITH DIAERESISbCAPITAL LIGATURE A IEbSMALL LIGATURE A IE
bCAPITAL LETTER IE WITH BREVEbSMALL LETTER IE WITH BREVEbCAPITAL LETTER SCHWAbSMALL LETTER SCHWA
bCAPITAL LETTER SCHWA WITH DIAERESISbSMALL LETTER SCHWA WITH DIAERESIS
bCAPITAL LETTER ZHE WITH DIAERESISbSMALL LETTER ZHE WITH DIAERESIS
bCAPITAL LETTER ZE WITH DIAERESISbSMALL LETTER ZE WITH DIAERESISbCAPITAL LETTER ABKHASIAN DZE
bSMALL LETTER ABKHASIAN DZEbCAPITAL LETTER I WITH MACRONbSMALL LETTER I WITH MACRON
bCAPITAL LETTER I WITH DIAERESISbSMALL LETTER I WITH DIAERESISbCAPITAL LETTER O WITH DIAERESIS
bSMALL LETTER O WITH DIAERESISbCAPITAL LETTER BARRED ObSMALL LETTER BARRED O
bCAPITAL LETTER BARRED O WITH DIAERESISbSMALL LETTER BARRED O WITH DIAERESIS
bCAPITAL LETTER E WITH DIAERESISbSMALL LETTER E WITH DIAERESISbCAPITAL LETTER U WITH MACRON
bSMALL LETTER U WITH MACRONbCAPITAL LETTER U WITH DIAERESISbSMALL LETTER U WITH DIAERESIS
bCAPITAL LETTER U WITH DOUBLE ACUTEbSMALL LETTER U WITH DOUBLE ACUTE
bCAPITAL LETTER CHE WITH DIAERESISbSMALL LETTER CHE WITH DIAERESIS
bCAPITAL LETTER GHE WITH DESCENDERbSMALL LETTER GHE WITH DESCENDER
bCAPITAL LETTER YERU WITH DIAERESISbSMALL LETTER YERU WITH DIAERESIS
bCAPITAL LETTER GHE WITH STROKE AND HOOKbSMALL LETTER GHE WITH STROKE AND HOOK
bCAPITAL LETTER HA WITH HOOKbSMALL LETTER HA WITH HOOKbCAPITAL LETTER HA WITH STROKE
bSMALL LETTER HA WITH STROKEbCAPITAL LETTER KOMI DEbSMALL LETTER KOMI DEbCAPITAL LETTER KOMI DJE
bSMALL LETTER KOMI DJEbCAPITAL LETTER KOMI ZJEbSMALL LETTER KOMI ZJEbCAPITAL LETTER KOMI DZJE
bSMALL LETTER KOMI DZJEbCAPITAL LETTER KOMI LJEbSMALL LETTER KOMI LJEbCAPITAL LETTER KOMI NJE
bSMALL LETTER KOMI NJEbCAPITAL LETTER KOMI SJEbSMALL LETTER KOMI SJEbCAPITAL LETTER KOMI TJE
bSMALL LETTER KOMI TJEbCAPITAL LETTER REVERSED ZEbSMALL LETTER REVERSED ZE
bCAPITAL LETTER EL WITH HOOKbSMALL LETTER EL WITH HOOKbCAPITAL LETTER LHAbSMALL LETTER LHA
bCAPITAL LETTER RHAbSMALL LETTER RHAbCAPITAL LETTER YAEbSMALL LETTER YAEbCAPITAL LETTER QA
bSMALL LETTER QAbCAPITAL LETTER WEbSMALL LETTER WEbCAPITAL LETTER ALEUT KAbSMALL LETTER ALEUT KA
bCAPITAL LETTER EL WITH MIDDLE HOOKbSMALL LETTER EL WITH MIDDLE HOOK
bCAPITAL LETTER EN WITH MIDDLE HOOKbSMALL LETTER EN WITH MIDDLE HOOK
bCAPITAL LETTER PE WITH DESCENDERbSMALL LETTER PE WITH DESCENDER
bCAPITAL LETTER SHHA WITH DESCENDERbSMALL LETTER SHHA WITH DESCENDER
bCAPITAL LETTER EN WITH LEFT HOOKbSMALL LETTER EN WITH LEFT HOOKbCAPITAL LETTER DZZHE
bSMALL LETTER DZZHEbCAPITAL LETTER DCHEbSMALL LETTER DCHEbCAPITAL LETTER EL WITH DESCENDER
bSMALL LETTER EL WITH DESCENDER"),
  (0x531, "aARMENIAN CAPITAL LETTER AYBdBENdGIMdDAdECHdZAdEHdETdTOdZHEdINIdLIWNdXEHdCAdKENdHOdJA
dGHADdCHEHdMENdYIdNOWdSHAdVOdCHAdPEHdJHEHdRAdSEHdVEWdTIWNdREHdCOdYIWNdPIWRdKEHdOHdFEH"),
  (0x559, "aARMENIAN MODIFIER LETTER LEFT HALF RINGbAPOSTROPHEbEMPHASIS MARKbEXCLAMATION MARK
bCOMMAbQUESTION MARKbABBREVIATION MARKbSMALL LETTER TURNED AYBdAYBdBENdGIMdDAdECHdZAdEHdETdTO
dZHEdINIdLIWNdXEHdCAdKENdHOdJAdGHADdCHEHdMENdYIdNOWdSHAdVOdCHAdPEHdJHEHdRAdSEHdVEWdTIWNdREHdCO
dYIWNdPIWRdKEHdOHdFEHcLIGATURE ECH YIWNcLETTER YI WITH STROKEbFULL STOPbHYPHEN"),
  (0x58D, "aRIGHT-FACING ARMENIAN ETERNITY SIGNaLEFT-FACING ARMENIAN ETERNITY SIGN
aARMENIAN DRAM SIGN"),
  (0x591, "aHEBREW ACCENT ETNAHTAcSEGOLcSHALSHELETcZAQEF QATANdGADOLcTIPEHAcREVIAcZARQAcPASHTA
cYETIVcTEVIRcGERESHdMUQDAMcGERSHAYIMcQARNEY PARAcTELISHA GEDOLAcPAZERcATNAH HAFUKHcMUNAH
cMAHAPAKHcMERKHAdKEFULAcDARGAcQADMAcTELISHA QETANAcYERAH BEN YOMOcOLEcILUYcDEHIcZINOR
bMARK MASORA CIRCLEbPOINT SHEVAcHATAF SEGOLdPATAHdQAMATScHIRIQcTSEREcSEGOLcPATAHcQAMATScHOLAM
dHASER FOR VAVcQUBUTScDAGESH OR MAPIQcMETEGbPUNCTUATION MAQAFbPOINT RAFEbPUNCTUATION PASEQ
bPOINT SHIN DOTcSIN DOTbPUNCTUATION SOF PASUQbMARK UPPER DOTcLOWER DOTbPUNCTUATION NUN HAFUKHA
bPOINT QAMATS QATAN"),
  (0x5D0, "aHEBREW LETTER ALEFcBETcGIMELcDALETcHEcVAVcZAYINcHETcTETcYODcFINAL KAFcKAFcLAMED
cFINAL MEMcMEMcFINAL NUNcNUNcSAMEKHcAYINcFINAL PEcPEcFINAL TSADIcTSADIcQOFcRESHcSHINcTAV"),
  (0x5EF, "aHEBREW YOD TRIANGLEbLIGATURE YIDDISH DOUBLE VAVdVAV YODdDOUBLE YOD
bPUNCTUATION GERESHcGERSHAYIM"),
  (0x600, "aARABIC NUMBER SIGNbSIGN SANAHbFOOTNOTE MARKERbSIGN SAFHAcSAMVATbNUMBER MARK ABOVE
aARABIC-INDIC CUBE ROOTbFOURTH ROOTaARABIC RAYaARABIC-INDIC PER MILLE SIGNcTEN THOUSAND SIGN
aAFGHANI SIGNaARABIC COMMAbDATE SEPARATORbPOETIC VERSE SIGNbSIGN MISRA
cSALLALLAHOU ALAYHE WASSALLAMcALAYHE ASSALLAMcRAHMATULLAH ALAYHEcRADI ALLAHOU ANHUcTAKHALLUS
bSMALL HIGH TAHdLIGATURE ALEF WITH LAM WITH YEHdZAINcFATHAcDAMMAcKASRAbSEMICOLONbLETTER MARK
bEND OF TEXT MARKbTRIPLE DOT PUNCTUATION MARKbQUESTION MARKbLETTER KASHMIRI YEHcHAMZA
cALEF WITH MADDA ABOVEeHAMZA ABOVEcWAW WITH HAMZA ABOVEcALEF WITH HAMZA BELOW
cYEH WITH HAMZA ABOVEcALEFcBEHcTEH MARBUTAdcTHEHcJEEMcHAHcKHAHcDALcTHALcREHcZAINcSEENcSHEENcSAD
cDADcTAHcZAHcAINcGHAINcKEHEH WITH TWO DOTS ABOVEeTHREE DOTS BELOWcFARSI YEH WITH INVERTED V
fTWO DOTS ABOVEfTHREE DOTS ABOVEbTATWEELbLETTER FEHcQAFcKAFcLAMcMEEMcNOONcHEHcWAWcALEF MAKSURA
cYEHbFATHATANbDAMMATANbKASRATANbFATHAbDAMMAbKASRAbSHADDAbSUKUNbMADDAH ABOVEbHAMZA ABOVEcBELOW
bSUBSCRIPT ALEFbINVERTED DAMMAbMARK NOON GHUNNAbZWARAKAYbVOWEL SIGN SMALL V ABOVE
dINVERTED SMALL V ABOVEdDOT BELOWbREVERSED DAMMAbFATHA WITH TWO DOTSbWAVY HAMZA BELOW
aARABIC-INDIC DIGIT ZEROcONEcTWOcTHREEcFOURcFIVEcSIXcSEVENcEIGHTcNINEaARABIC PERCENT SIGN
bDECIMAL SEPARATORbTHOUSANDS SEPARATORbFIVE POINTED STARbLETTER DOTLESS BEHdQAFcSUPERSCRIPT ALEF
cALEF WASLAdWITH WAVY HAMZA ABOVEgBELOWcHIGH HAMZAeALEFeWAWcU WITH HAMZA ABOVEcHIGH HAMZA YEH
cTTEHcTTEHEHcBEEHcTEH WITH RINGeTHREE DOTS ABOVE DOWNWARDScPEHcTEHEHcBEHEHcHAH WITH HAMZA ABOVE
eTWO DOTS VERTICAL ABOVEcNYEHcDYEHcHAH WITH THREE DOTS ABOVEcTCHEHcTCHEHEHcDDALcDAL WITH RING
eDOT BELOWgAND SMALL TAHcDAHALcDDAHALcDULcDAL WITH THREE DOTS ABOVE DOWNWARDSeFOUR DOTS ABOVE
cRREHcREH WITH SMALL VeRINGeDOT BELOWeSMALL V BELOWeDOT BELOW AND DOT ABOVEeTWO DOTS ABOVEcJEH
cREH WITH FOUR DOTS ABOVEcSEEN WITH DOT BELOW AND DOT ABOVEeTHREE DOTS BELOW
hAND THREE DOTS ABOVEcSAD WITH TWO DOTS BELOWeTHREE DOTS ABOVEcTAH WITH THREE DOTS ABOVE
cAIN WITH THREE DOTS ABOVEcDOTLESS FEHcFEH WITH DOT MOVED BELOWfBELOWcVEH
cFEH WITH THREE DOTS BELOWcPEHEHcQAF WITH DOT ABOVEeTHREE DOTS ABOVEcKEHEHcSWASH KAF
cKAF WITH RINGeDOT ABOVEcNGcKAF WITH THREE DOTS BELOWcGAFdWITH RINGcNGOEH
cGAF WITH TWO DOTS BELOWcGUEHcGAF WITH THREE DOTS ABOVEcLAM WITH SMALL VeDOT ABOVE
eTHREE DOTS ABOVEgBELOWcNOON WITH DOT BELOWdGHUNNAcRNOONcNOON WITH RINGeTHREE DOTS ABOVE
cHEH DOACHASHMEEcTCHEH WITH DOT ABOVEcHEH WITH YEH ABOVEdGOALeWITH HAMZA ABOVEcTEH MARBUTA GOAL
cWAW WITH RINGcKIRGHIZ OEcOEcUcYUcKIRGHIZ YUcWAW WITH TWO DOTS ABOVEcVEcFARSI YEHcYEH WITH TAIL
eSMALL VcWAW WITH DOT ABOVEcEcYEH WITH THREE DOTS BELOWdBARREEeWITH HAMZA ABOVEbFULL STOP
bLETTER AEbSMALL HIGH LIGATURE SAD WITH LAM WITH ALEF MAKSURAeQAF WITH LAM WITH ALEF MAKSURA
dMEEM INITIAL FORMdLAM ALEFdJEEMdTHREE DOTSdSEENbEND OF AYAHbSTART OF RUB EL HIZB
bSMALL HIGH ROUNDED ZEROdUPRIGHT RECTANGULAR ZEROdDOTLESS HEAD OF KHAHdMEEM ISOLATED FORM
cLOW SEENcHIGH MADDAcWAWcYEHcHIGH YEHdNOONbPLACE OF SAJDAHbEMPTY CENTRE LOW STOPdHIGH STOP
bROUNDED HIGH STOP WITH FILLED CENTREbSMALL LOW MEEMbLETTER DAL WITH INVERTED V
cREH WITH INVERTED VaEXTENDED ARABIC-INDIC DIGIT ZEROdONEdTWOdTHREEdFOURdFIVEdSIXdSEVENdEIGHT
dNINEaARABIC LETTER SHEEN WITH DOT BELOWcDAD WITH DOT BELOWcGHAIN WITH DOT BELOW
bSIGN SINDHI AMPERSANDdPOSTPOSITION MENbLETTER HEH WITH INVERTED VaSYRIAC END OF PARAGRAPH
bSUPRALINEAR FULL STOPbSUBLINEAR FULL STOPbSUPRALINEAR COLONbSUBLINEAR COLONbHORIZONTAL COLON
bCOLON SKEWED LEFTdRIGHTbSUPRALINEAR COLON SKEWED LEFTbSUBLINEAR COLON SKEWED RIGHTbCONTRACTION
bHARKLEAN OBELUScMETOBELUScASTERISCUS"),
  (0x70F, "aSYRIAC ABBREVIATION MARKbLETTER ALAPHcSUPERSCRIPT ALAPHcBETHcGAMALdGARSHUNIcDALATH
cDOTLESS DALATH RISHcHEcWAWcZAINcHETHcTETHdGARSHUNIcYUDHdHEcKAPHcLAMADHcMIMcNUNcSEMKATH
cFINAL SEMKATHcEcPEcREVERSED PEcSADHEcQAPHcRISHcSHINcTAWcPERSIAN BHETHdGHAMALdDHALATH
bPTHAHA ABOVEcBELOWcDOTTEDbZQAPHA ABOVEcBELOWcDOTTEDbRBASA ABOVEcBELOWbDOTTED ZLAMA HORIZONTAL
dANGULARbHBASA ABOVEcBELOWbHBASA-ESASA DOTTEDbESASA ABOVEcBELOWbRWAHAbFEMININE DOTbQUSHSHAYA
bRUKKAKHAbTWO VERTICAL DOTS ABOVEeBELOWbTHREE DOTS ABOVEdBELOWbOBLIQUE LINE ABOVEdBELOWbMUSIC
bBARREKH"),
  (0x74D, "aSYRIAC LETTER SOGDIAN ZHAINdKHAPHdFE
aARABIC LETTER BEH WITH THREE DOTS HORIZONTALLY BELOWeDOT BELOW AND THREE DOTS ABOVE
eTHREE DOTS POINTING UPWARDS BELOWjAND TWO DOTS ABOVEeTWO DOTS BELOW AND DOT ABOVE
eINVERTED SMALL V BELOWeSMALL VcHAH WITH TWO DOTS ABOVEeTHREE DOTS POINTING UPWARDS BELOW
cDAL WITH TWO DOTS VERTICALLY BELOW AND SMALL TAHeINVERTED SMALL V BELOWcREH WITH STROKE
cSEEN WITH FOUR DOTS ABOVEcAIN WITH TWO DOTS ABOVEeTHREE DOTS POINTING DOWNWARDS ABOVE
eTWO DOTS VERTICALLY ABOVEcFEH WITH TWO DOTS BELOWeTHREE DOTS POINTING UPWARDS BELOW
cKEHEH WITH DOT ABOVEeTHREE DOTS ABOVEgPOINTING UPWARDS BELOWcMEEM WITH DOT ABOVEfBELOW
cNOON WITH TWO DOTS BELOWeSMALL TAHfVcLAM WITH BARcREH WITH TWO DOTS VERTICALLY ABOVE
eHAMZA ABOVEcSEEN WITH TWO DOTS VERTICALLY ABOVEcHAH WITH SMALL ARABIC LETTER TAH BELOW
iAND TWO DOTScSEEN WITH SMALL ARABIC LETTER TAH AND TWO DOTS
cREH WITH SMALL ARABIC LETTER TAH AND TWO DOTScHAH WITH SMALL ARABIC LETTER TAH ABOVE
cALEF WITH EXTENDED ARABIC-INDIC DIGIT TWO ABOVEhTHREE ABOVE
cFARSI YEH WITH EXTENDED ARABIC-INDIC DIGIT TWO ABOVEiTHREE ABOVEiFOUR BELOW
cWAW WITH EXTENDED ARABIC-INDIC DIGIT TWO ABOVEhTHREE ABOVE
cYEH BARREE WITH EXTENDED ARABIC-INDIC DIGIT TWO ABOVEiTHREE ABOVE
cHAH WITH EXTENDED ARABIC-INDIC DIGIT FOUR BELOW
cSEEN WITH EXTENDED ARABIC-INDIC DIGIT FOUR ABOVEeINVERTED VcKAF WITH TWO DOTS ABOVE
aTHAANA LETTER HAAcSHAVIYANIcNOONUcRAAcBAAcLHAVIYANIcKAAFUcALIFUcVAAVUcMEEMUcFAAFUcDHAALUcTHAA
cLAAMUcGAAFUcGNAVIYANIcSEENUcDAVIYANIcZAVIYANIcTAVIYANIcYAAcPAVIYANIcJAVIYANIcCHAVIYANIcTTAA
cHHAAcKHAAcTHAALUcZAAcSHEENUcSAADHUcDAADHUcTOcZOcAINUcGHAINUcQAAFUcWAAVUbABAFILIbAABAAFILI
bIBIFILIbEEBEEFILIbUBUFILIbOOBOOFILIbEBEFILIbEYBEYFILIbOBOFILIbOABOAFILIbSUKUNbLETTER NAA"),
  (0x7C0, "aNKO DIGIT ZEROcONEcTWOcTHREEcFOURcFIVEcSIXcSEVENcEIGHTcNINEbLETTER AcEEcIcEcUcOOcO
cDAGBASINNAcNcBAcPAcTAcJAcCHAcDAcRAcRRAcSAcGBAcFAcKAcLAcNA WOLOSOcMAcNYAcNAcHAcWAcYAcNYA WOLOSO
cJONA JAdCHAdRAbCOMBINING SHORT HIGH TONEdLOW TONEdRISING TONEcLONG DESCENDING TONEdHIGH TONE
dLOW TONEdRISING TONEcNASALIZATION MARKcDOUBLE DOT ABOVEbHIGH TONE APOSTROPHE
bLOW TONE APOSTROPHEbSYMBOL OO DENNENcGBAKURUNENbCOMMAbEXCLAMATION MARKbLAJANYALAN"),
  (0x7FD, "aNKO DANTAYALANbDOROME SIGNbTAMAN SIGNaSAMARITAN LETTER ALAFcBITcGAMANcDALATcIYcBAA
cZENcITcTITcYUTcKAAFcLABATcMIMcNUNcSINGAATcINcFIcTSAADIYcQUFcRISHcSHANcTAAFbMARK INcIN-ALAF
cOCCLUSIONcDAGESHbMODIFIER LETTER EPENTHETIC YUTbMARK EPENTHETIC YUTbVOWEL SIGN LONG EdE
dOVERLONG AAdLONG AAdAAdOVERLONG AdLONG AdAbMODIFIER LETTER SHORT AbVOWEL SIGN SHORT AdLONG UdU
bMODIFIER LETTER IbVOWEL SIGN LONG IdIdOdSUKUNbMARK NEQUDAA"),
  (0x830, "aSAMARITAN PUNCTUATION NEQUDAAcAFSAAQcANGEDcBAUcATMAAUcSHIYYAALAAbABBREVIATION MARK
bPUNCTUATION MELODIC QITSAcZIQAAcQITSAcZAEFcTURUcARKAANUcSOF MASHFAATcANNAAU"),
  (0x840, "aMANDAIC LETTER HALQAcABcAGcADcAHcUSHENNAcAZcITcATTcAKSAcAKcALcAMcANcAScINcAPcASZcAQ
cARcASHcATcDUSHENNAcKADcAINbAFFRICATION MARKbVOCALIZATION MARKbGEMINATION MARK"),
  (0x85E, "aMANDAIC PUNCTUATION"),
  (0x860, "aSYRIAC LETTER MALAYALAM NGAdJAdNYAdTTAdNNAdNNNAdBHAdRAdLLAdLLLAdSSA"),
  (0x870, "aARABIC LETTER ALEF WITH ATTACHED FATHAfTOP RIGHT FATHAeRIGHT MIDDLE STROKE
eLEFT MIDDLE STROKEeATTACHED KASRAfBOTTOM RIGHT KASRAfROUND DOT ABOVEfRIGHT ROUND DOT
fLEFT ROUND DOTfROUND DOT BELOWeDOT ABOVEeATTACHED TOP RIGHT FATHA AND DOT ABOVE
eRIGHT MIDDLE STROKE AND DOT ABOVEeATTACHED BOTTOM RIGHT KASRA AND DOT ABOVE
fTOP RIGHT FATHA AND LEFT RINGeRIGHT MIDDLE STROKE AND LEFT RING
eATTACHED BOTTOM RIGHT KASRA AND LEFT RINGfRIGHT HAMZAfLEFT HAMZAbTATWEEL WITH OVERSTRUCK HAMZA
eWAWdTWO DOTS BELOWbLETTER THIN YEHbBASELINE ROUND DOTbRAISED ROUND DOT
bLETTER NOON WITH INVERTED SMALL VcHAH WITH INVERTED SMALL V BELOWcTAH WITH DOT BELOW
eTHREE DOTS BELOWcKEHEH WITH TWO DOTS VERTICALLY BELOWbVERTICAL TAIL"),
  (0x890, "aARABIC POUND MARK ABOVEbPIASTRE MARK ABOVE"),
  (0x898, "aARABIC SMALL HIGH WORD AL-JUZcLOW WORD ISHMAAMeIMAALAeTASHEELbMADDA WAAJIB
bSUPERSCRIPT ALEF MOKHASSASbDOUBLED MADDAbHALF MADDA OVER MADDAbLETTER BEH WITH SMALL V BELOW
eHAMZA ABOVEcJEEM WITH TWO DOTS ABOVEcTAH WITH TWO DOTS ABOVE
cFEH WITH DOT BELOW AND THREE DOTS ABOVEcQAF WITH DOT BELOWcLAM WITH DOUBLE BAR
cMEEM WITH THREE DOTS ABOVEcYEH WITH TWO DOTS BELOW AND HAMZA ABOVEiDOT ABOVEcREH WITH LOOP
cWAW WITH DOT WITHINcROHINGYA YEHcLOW ALEFcDAL WITH THREE DOTS BELOWcSAD WITH THREE DOTS BELOW
cGAF WITH INVERTED STROKEcSTRAIGHT WAWcZAIN WITH INVERTED V ABOVEcAIN WITH THREE DOTS BELOW
cKAF WITH DOT BELOWcQAF WITH DOT BELOW AND NO DOTS ABOVEcBEH WITH SMALL MEEM ABOVE
cPEH WITH SMALL MEEM ABOVEcTEH WITH SMALL TEH ABOVEcREH WITH SMALL NOON ABOVE
cYEH WITH TWO DOTS BELOW AND SMALL NOON ABOVEcAFRICAN FEHdQAFdNOONcPEH WITH SMALL V
cTEH WITH SMALL VcTTEH WITH SMALL VcTCHEH WITH SMALL VcKEHEH WITH SMALL V
cGHAIN WITH THREE DOTS ABOVEcAFRICAN QAF WITH THREE DOTS ABOVEcJEEM WITH THREE DOTS ABOVEgBELOW
cLAM WITH SMALL ARABIC LETTER TAH ABOVEcGRAFbSMALL FARSI YEHcHIGH FARSI YEH
dYEH BARREE WITH TWO DOTS BELOWdWORD SAHdZAHbLARGE ROUND DOT ABOVEeBELOWbSUKUN BELOW
bLARGE CIRCLE BELOWcROUND DOT INSIDE CIRCLE BELOWbSMALL LOW WAWcHIGH WORD AR-RUBdSADdAINdQAF
dNOON WITH KASRAcLOW NOON WITH KASRAcHIGH WORD ATH-THALATHAeAS-SAJDAeAN-NISFeSAKTAeQIFeWAQFA
dFOOTNOTE MARKERdSIGN SAFHAbDISPUTED END OF AYAHbTURNED DAMMA BELOWbCURLY FATHAcDAMMAcKASRA
cFATHATANcDAMMATANcKASRATANbTONE ONE DOT ABOVEcTWO DOTS ABOVEcLOOP ABOVEcONE DOT BELOW
cTWO DOTS BELOWcLOOP BELOWbOPEN FATHATANcDAMMATANcKASRATANbSMALL HIGH WAWbFATHA WITH RING
dDOT ABOVEbKASRA WITH DOT BELOWbLEFT ARROWHEAD ABOVEbRIGHT ARROWHEAD ABOVEbLEFT ARROWHEAD BELOW
bRIGHT ARROWHEAD BELOWbDOUBLE RIGHT ARROWHEAD ABOVEfWITH DOTbRIGHT ARROWHEAD ABOVE WITH DOT
bDAMMA WITH DOTbMARK SIDEWAYS NOON GHUNNAaDEVANAGARI SIGN INVERTED CANDRABINDUcCANDRABINDU
cANUSVARAcVISARGAbLETTER SHORT AcAcAAcIcIIcUcUUcVOCALIC RdLcCANDRA EcSHORT EcEcAIcCANDRA O
cSHORT OcOcAUcKAcKHAcGAcGHAcNGAcCAcCHAcJAcJHAcNYAcTTAcTTHAcDDAcDDHAcNNAcTAcTHAcDAcDHAcNAcNNNAcPA
cPHAcBAcBHAcMAcYAcRAcRRAcLAcLLAcLLLAcVAcSHAcSSAcSAcHAbVOWEL SIGN OEdOOEbSIGN NUKTAcAVAGRAHA
bVOWEL SIGN AAdIdIIdUdUUdVOCALIC ReRRdCANDRA EdSHORT EdEdAIdCANDRA OdSHORT OdOdAUbSIGN VIRAMA
bVOWEL SIGN PRISHTHAMATRA EdAWbOMbSTRESS SIGN UDATTAdANUDATTAbGRAVE ACCENTbACUTE ACCENT
bVOWEL SIGN CANDRA LONG EdUEdUUEbLETTER QAcKHHAcGHHAcZAcDDDHAcRHAcFAcYYAcVOCALIC RRdLL
bVOWEL SIGN VOCALIC LeLLbDANDAbDOUBLE DANDAbDIGIT ZEROcONEcTWOcTHREEcFOURcFIVEcSIXcSEVENcEIGHT
cNINEbABBREVIATION SIGNbSIGN HIGH SPACING DOTbLETTER CANDRA AcOEcOOEcAWcUEcUUEcMARWARI DDAcZHA
cHEAVY YAcGGAcJJAcGLOTTAL STOPcDDDAcBBAaBENGALI ANJIbSIGN CANDRABINDUcANUSVARAcVISARGA"),
  (0x985, "aBENGALI LETTER AcAAcIcIIcUcUUcVOCALIC RdL"),
  (0x98F, "aBENGALI LETTER EcAI"),
  (0x993, "aBENGALI LETTER OcAUcKAcKHAcGAcGHAcNGAcCAcCHAcJAcJHAcNYAcTTAcTTHAcDDAcDDHAcNNAcTAcTHA
cDAcDHAcNA"),
  (0x9AA, "aBENGALI LETTER PAcPHAcBAcBHAcMAcYAcRA"),
  (0x9B2, "aBENGALI LETTER LA"),
  (0x9B6, "aBENGALI LETTER SHAcSSAcSAcHA"),
  (0x9BC, "aBENGALI SIGN NUKTAcAVAGRAHAbVOWEL SIGN AAdIdIIdUdUUdVOCALIC ReRR"),
  (0x9C7, "aBENGALI VOWEL SIGN EdAI"),
  (0x9CB, "aBENGALI VOWEL SIGN OdAUbSIGN VIRAMAbLETTER KHANDA TA"),
  (0x9D7, "aBENGALI AU LENGTH MARK"),
  (0x9DC, "aBENGALI LETTER RRAcRHA"),
  (0x9DF, "aBENGALI LETTER YYAcVOCALIC RRdLLbVOWEL SIGN VOCALIC LeLL"),
  (0x9E6, "aBENGALI DIGIT ZEROcONEcTWOcTHREEcFOURcFIVEcSIXcSEVENcEIGHTcNINE
bLETTER RA WITH MIDDLE DIAGONALeLOWER DIAGONALbRUPEE MARKcSIGNbCURRENCY NUMERATOR ONEdTWOdTHREE
dFOURdONE LESS THAN THE DENOMINATORcDENOMINATOR SIXTEENbISSHARbGANDA MARKbLETTER VEDIC ANUSVARA
bABBREVIATION SIGNbSANDHI MARK"),
  (0xA01, "aGURMUKHI SIGN ADAK BINDIcBINDIcVISARGA"),
  (0xA05, "aGURMUKHI LETTER AcAAcIcIIcUcUU"),
  (0xA0F, "aGURMUKHI LETTER EEcAI"),
  (0xA13, "aGURMUKHI LETTER OOcAUcKAcKHAcGAcGHAcNGAcCAcCHAcJAcJHAcNYAcTTAcTTHAcDDAcDDHAcNNAcTA
cTHAcDAcDHAcNA"),
  (0xA2A, "aGURMUKHI LETTER PAcPHAcBAcBHAcMAcYAcRA"),
  (0xA32, "aGURMUKHI LETTER LAcLLA"),
  (0xA35, "aGURMUKHI LETTER VAcSHA"),
  (0xA38, "aGURMUKHI LETTER SAcHA"),
  (0xA3C, "aGURMUKHI SIGN NUKTA"),
  (0xA3E, "aGURMUKHI VOWEL SIGN AAdIdIIdUdUU"),
  (0xA47, "aGURMUKHI VOWEL SIGN EEdAI"),
  (0xA4B, "aGURMUKHI VOWEL SIGN OOdAUbSIGN VIRAMA"),
  (0xA51, "aGURMUKHI SIGN UDAAT"),
  (0xA59, "aGURMUKHI LETTER KHHAcGHHAcZAcRRA"),
  (0xA5E, "aGURMUKHI LETTER FA"),
  (0xA66, "aGURMUKHI DIGIT ZEROcONEcTWOcTHREEcFOURcFIVEcSIXcSEVENcEIGHTcNINEbTIPPIbADDAKbIRIbURA
bEK ONKARbSIGN YAKASHbABBREVIATION SIGN"),
  (0xA81, "aGUJARATI SIGN CANDRABINDUcANUSVARAcVISARGA"),
  (0xA85, "aGUJARATI LETTER AcAAcIcIIcUcUUcVOCALIC RdLbVOWEL CANDRA E"),
  (0xA8F, "aGUJARATI LETTER EcAIbVOWEL CANDRA O"),
  (0xA93, "aGUJARATI LETTER OcAUcKAcKHAcGAcGHAcNGAcCAcCHAcJAcJHAcNYAcTTAcTTHAcDDAcDDHAcNNAcTA
cTHAcDAcDHAcNA"),
  (0xAAA, "aGUJARATI LETTER PAcPHAcBAcBHAcMAcYAcRA"),
  (0xAB2, "aGUJARATI LETTER LAcLLA"),
  (0xAB5, "aGUJARATI LETTER VAcSHAcSSAcSAcHA"),
  (0xABC, "aGUJARATI SIGN NUKTAcAVAGRAHAbVOWEL SIGN AAdIdIIdUdUUdVOCALIC ReRRdCANDRA E"),
  (0xAC7, "aGUJARATI VOWEL SIGN EdAIdCANDRA O"),
  (0xACB, "aGUJARATI VOWEL SIGN OdAUbSIGN VIRAMA"),
  (0xAD0, "aGUJARATI OM"),
  (0xAE0, "aGUJARATI LETTER VOCALIC RRdLLbVOWEL SIGN VOCALIC LeLL"),
  (0xAE6, "aGUJARATI DIGIT ZEROcONEcTWOcTHREEcFOURcFIVEcSIXcSEVENcEIGHTcNINEbABBREVIATION SIGN
bRUPEE SIGN"),
  (0xAF9, "aGUJARATI LETTER ZHAbSIGN SUKUNcSHADDAcMADDAHcTHREE-DOT NUKTA ABOVE
cCIRCLE NUKTA ABOVEcTWO-CIRCLE NUKTA ABOVE"),
  (0xB01, "aORIYA SIGN CANDRABINDUcANUSVARAcVISARGA"),
  (0xB05, "aORIYA LETTER AcAAcIcIIcUcUUcVOCALIC RdL"),
  (0xB0F, "aORIYA LETTER EcAI"),
  (0xB13, "aORIYA LETTER OcAUcKAcKHAcGAcGHAcNGAcCAcCHAcJAcJHAcNYAcTTAcTTHAcDDAcDDHAcNNAcTAcTHA
cDAcDHAcNA"),
  (0xB2A, "aORIYA LETTER PAcPHAcBAcBHAcMAcYAcRA"),
  (0xB32, "aORIYA LETTER LAcLLA"),
  (0xB35, "aORIYA LETTER VAcSHAcSSAcSAcHA"),
  (0xB3C, "aORIYA SIGN NUKTAcAVAGRAHAbVOWEL SIGN AAdIdIIdUdUUdVOCALIC ReRR"),
  (0xB47, "aORIYA VOWEL SIGN EdAI"),
  (0xB4B, "aORIYA VOWEL SIGN OdAUbSIGN VIRAMA"),
  (0xB55, "aORIYA SIGN OVERLINEbAI LENGTH MARKbAU LENGTH MARK"),
  (0xB5C, "aORIYA LETTER RRAcRHA"),
  (0xB5F, "aORIYA LETTER YYAcVOCALIC RRdLLbVOWEL SIGN VOCALIC LeLL"),
  (0xB66, "aORIYA DIGIT ZEROcONEcTWOcTHREEcFOURcFIVEcSIXcSEVENcEIGHTcNINEbISSHARbLETTER WA
bFRACTION ONE QUARTERdHALFcTHREE QUARTERScONE SIXTEENTHdEIGHTHcTHREE SIXTEENTHS"),
  (0xB82, "aTAMIL SIGN ANUSVARAcVISARGA"),
  (0xB85, "aTAMIL LETTER AcAAcIcIIcUcUU"),
  (0xB8E, "aTAMIL LETTER EcEEcAI"),
  (0xB92, "aTAMIL LETTER OcOOcAUcKA"),
  (0xB99, "aTAMIL LETTER NGAcCA"),
  (0xB9C, "aTAMIL LETTER JA"),
  (0xB9E, "aTAMIL LETTER NYAcTTA"),
  (0xBA3, "aTAMIL LETTER NNAcTA"),
  (0xBA8, "aTAMIL LETTER NAcNNNAcPA"),
  (0xBAE, "aTAMIL LETTER MAcYAcRAcRRAcLAcLLAcLLLAcVAcSHAcSSAcSAcHA"),
  (0xBBE, "aTAMIL VOWEL SIGN AAdIdIIdUdUU"),
  (0xBC6, "aTAMIL VOWEL SIGN EdEEdAI"),
  (0xBCA, "aTAMIL VOWEL SIGN OdOOdAUbSIGN VIRAMA"),
  (0xBD0, "aTAMIL OM"),
  (0xBD7, "aTAMIL AU LENGTH MARK"),
  (0xBE6, "aTAMIL DIGIT ZEROcONEcTWOcTHREEcFOURcFIVEcSIXcSEVENcEIGHTcNINEbNUMBER TENcONE HUNDRED
dTHOUSANDbDAY SIGNbMONTH SIGNbYEAR SIGNbDEBIT SIGNbCREDIT SIGNbAS ABOVE SIGNbRUPEE SIGN
bNUMBER SIGN"),
  (0xC00, "aTELUGU SIGN COMBINING CANDRABINDU ABOVEcCANDRABINDUcANUSVARAcVISARGA
cCOMBINING ANUSVARA ABOVEbLETTER AcAAcIcIIcUcUUcVOCALIC RdL"),
  (0xC0E, "aTELUGU LETTER EcEEcAI"),
  (0xC12, "aTELUGU LETTER OcOOcAUcKAcKHAcGAcGHAcNGAcCAcCHAcJAcJHAcNYAcTTAcTTHAcDDAcDDHAcNNAcTA
cTHAcDAcDHAcNA"),
  (0xC2A, "aTELUGU LETTER PAcPHAcBAcBHAcMAcYAcRAcRRAcLAcLLAcLLLAcVAcSHAcSSAcSAcHA"),
  (0xC3C, "aTELUGU SIGN NUKTAcAVAGRAHAbVOWEL SIGN AAdIdIIdUdUUdVOCALIC ReRR"),
  (0xC46, "aTELUGU VOWEL SIGN EdEEdAI"),
  (0xC4A, "aTELUGU VOWEL SIGN OdOOdAUbSIGN VIRAMA"),
  (0xC55, "aTELUGU LENGTH MARKbAI LENGTH MARK"),
  (0xC58, "aTELUGU LETTER TSAcDZAcRRRA"),
  (0xC5D, "aTELUGU LETTER NAKAARA POLLU"),
  (0xC60, "aTELUGU LETTER VOCALIC RRdLLbVOWEL SIGN VOCALIC LeLL"),
  (0xC66, "aTELUGU DIGIT ZEROcONEcTWOcTHREEcFOURcFIVEcSIXcSEVENcEIGHTcNINE"),
  (0xC77, "aTELUGU SIGN SIDDHAMbFRACTION DIGIT ZERO FOR ODD POWERS OF FOUR
dONE FOR ODD POWERS OF FOURdTWO FOR ODD POWERS OF FOURdTHREE FOR ODD POWERS OF FOUR
dONE FOR EVEN POWERS OF FOURdTWO FOR EVEN POWERS OF FOURdTHREE FOR EVEN POWERS OF FOUR
bSIGN TUUMUaKANNADA SIGN SPACING CANDRABINDUcCANDRABINDUcANUSVARAcVISARGAcSIDDHAMbLETTER AcAAcI
cIIcUcUUcVOCALIC RdL"),
  (0xC8E, "aKANNADA LETTER EcEEcAI"),
  (0xC92, "aKANNADA LETTER OcOOcAUcKAcKHAcGAcGHAcNGAcCAcCHAcJAcJHAcNYAcTTAcTTHAcDDAcDDHAcNNAcTA
cTHAcDAcDHAcNA"),
  (0xCAA, "aKANNADA LETTER PAcPHAcBAcBHAcMAcYAcRAcRRAcLAcLLA"),
  (0xCB5, "aKANNADA LETTER VAcSHAcSSAcSAcHA"),
  (0xCBC, "aKANNADA SIGN NUKTAcAVAGRAHAbVOWEL SIGN AAdIdIIdUdUUdVOCALIC ReRR"),
  (0xCC6, "aKANNADA VOWEL SIGN EdEEdAI"),
  (0xCCA, "aKANNADA VOWEL SIGN OdOOdAUbSIGN VIRAMA"),
  (0xCD5, "aKANNADA LENGTH MARKbAI LENGTH MARK"),
  (0xCDD, "aKANNADA LETTER NAKAARA POLLUcFA"),
  (0xCE0, "aKANNADA LETTER VOCALIC RRdLLbVOWEL SIGN VOCALIC LeLL"),
  (0xCE6, "aKANNADA DIGIT ZEROcONEcTWOcTHREEcFOURcFIVEcSIXcSEVENcEIGHTcNINE"),
  (0xCF1, "aKANNADA SIGN JIHVAMULIYAcUPADHMANIYA"),
  (0xD00, "aMALAYALAM SIGN COMBINING ANUSVARA ABOVEcCANDRABINDUcANUSVARAcVISARGA
bLETTER VEDIC ANUSVARAcAcAAcIcIIcUcUUcVOCALIC RdL"),
  (0xD0E, "aMALAYALAM LETTER EcEEcAI"),
  (0xD12, "aMALAYALAM LETTER OcOOcAUcKAcKHAcGAcGHAcNGAcCAcCHAcJAcJHAcNYAcTTAcTTHAcDDAcDDHAcNNA
cTAcTHAcDAcDHAcNAcNNNAcPAcPHAcBAcBHAcMAcYAcRAcRRAcLAcLLAcLLLAcVAcSHAcSSAcSAcHAcTTTA
bSIGN VERTICAL BAR VIRAMAcCIRCULAR VIRAMAcAVAGRAHAbVOWEL SIGN AAdIdIIdUdUUdVOCALIC ReRR"),
  (0xD46, "aMALAYALAM VOWEL SIGN EdEEdAI"),
  (0xD4A, "aMALAYALAM VOWEL SIGN OdOOdAUbSIGN VIRAMAbLETTER DOT REPHbSIGN PARA"),
  (0xD54, "aMALAYALAM LETTER CHILLU MdYdLLLbAU LENGTH MARKbFRACTION ONE ONE-HUNDRED-AND-SIXTIETH
dFORTIETHcTHREE EIGHTIETHScONE TWENTIETHdTENTHcTHREE TWENTIETHScONE FIFTHbLETTER ARCHAIC II
cVOCALIC RRdLLbVOWEL SIGN VOCALIC LeLL"),
  (0xD66, "aMALAYALAM DIGIT ZEROcONEcTWOcTHREEcFOURcFIVEcSIXcSEVENcEIGHTcNINEbNUMBER TEN
cONE HUNDREDdTHOUSANDbFRACTION ONE QUARTERdHALFcTHREE QUARTERScONE SIXTEENTHdEIGHTH
cTHREE SIXTEENTHSbDATE MARKbLETTER CHILLU NNdNdRRdLdLLdK"),
  (0xD81, "aSINHALA SIGN CANDRABINDUcANUSVARAYAcVISARGAYA"),
  (0xD85, "aSINHALA LETTER AYANNAcAAYANNAcAEYANNAcAEEYANNAcIYANNAcIIYANNAcUYANNAcUUYANNA
cIRUYANNAcIRUUYANNAcILUYANNAcILUUYANNAcEYANNAcEEYANNAcAIYANNAcOYANNAcOOYANNAcAUYANNA"),
  (0xD9A, "aSINHALA LETTER ALPAPRAANA KAYANNAcMAHAAPRAANA KAYANNAcALPAPRAANA GAYANNA
cMAHAAPRAANA GAYANNAcKANTAJA NAASIKYAYAcSANYAKA GAYANNAcALPAPRAANA CAYANNAcMAHAAPRAANA CAYANNA
cALPAPRAANA JAYANNAcMAHAAPRAANA JAYANNAcTAALUJA NAASIKYAYAdSANYOOGA NAAKSIKYAYAcSANYAKA JAYANNA
cALPAPRAANA TTAYANNAcMAHAAPRAANA TTAYANNAcALPAPRAANA DDAYANNAcMAHAAPRAANA DDAYANNA
cMUURDHAJA NAYANNAcSANYAKA DDAYANNAcALPAPRAANA TAYANNAcMAHAAPRAANA TAYANNAcALPAPRAANA DAYANNA
cMAHAAPRAANA DAYANNAcDANTAJA NAYANNA"),
  (0xDB3, "aSINHALA LETTER SANYAKA DAYANNAcALPAPRAANA PAYANNAcMAHAAPRAANA PAYANNA
cALPAPRAANA BAYANNAcMAHAAPRAANA BAYANNAcMAYANNAcAMBA BAYANNAcYAYANNAcRAYANNA"),
  (0xDBD, "aSINHALA LETTER DANTAJA LAYANNA"),
  (0xDC0, "aSINHALA LETTER VAYANNAcTAALUJA SAYANNAcMUURDHAJA SAYANNAcDANTAJA SAYANNAcHAYANNA
cMUURDHAJA LAYANNAcFAYANNA"),
  (0xDCA, "aSINHALA SIGN AL-LAKUNA"),
  (0xDCF, "aSINHALA VOWEL SIGN AELA-PILLAdKETTI AEDA-PILLAdDIGA AEDA-PILLAdKETTI IS-PILLA
dDIGA IS-PILLAdKETTI PAA-PILLA"),
  (0xDD6, "aSINHALA VOWEL SIGN DIGA PAA-PILLA"),
  (0xDD8, "aSINHALA VOWEL SIGN GAETTA-PILLAdKOMBUVAdDIGA KOMBUVAdKOMBU DEKA
dKOMBUVA HAA AELA-PILLAfDIGA AELA-PILLAfGAYANUKITTAdGAYANUKITTA"),
  (0xDE6, "aSINHALA LITH DIGIT ZEROdONEdTWOdTHREEdFOURdFIVEdSIXdSEVENdEIGHTdNINE"),
  (0xDF2, "aSINHALA VOWEL SIGN DIGA GAETTA-PILLAeGAYANUKITTAbPUNCTUATION KUNDDALIYA"),
  (0xE01, "aTHAI CHARACTER KO KAIcKHO KHAIdKHUATdKHWAIdKHONdRAKHANGcNGO NGUcCHO CHANdCHINGdCHANG
cSO SOcCHO CHOEcYO YINGcDO CHADAcTO PATAKcTHO THANdNANGMONTHOdPHUTHAOcNO NENcDO DEKcTO TAO
cTHO THUNGdTHAHANdTHONGcNO NUcBO BAIMAIcPO PLAcPHO PHUNGcFO FAcPHO PHANcFO FANcPHO SAMPHAOcMO MA
cYO YAKcRO RUAcRUcLO LINGcLUcWO WAENcSO SALAdRUSIdSUAcHO HIPcLO CHULAcO ANGcHO NOKHUKcPAIYANNOI
cSARA AcMAI HAN-AKATcSARA AAdAMdIdIIdUEdUEEdUdUUcPHINTHU"),
  (0xE3F, "aTHAI CURRENCY SYMBOL BAHTbCHARACTER SARA EdAEdOdAI MAIMUANeMAIMALAIcLAKKHANGYAO
cMAIYAMOKcMAITAIKHUcMAI EKdTHOdTRIdCHATTAWAcTHANTHAKHATcNIKHAHITcYAMAKKANcFONGMANbDIGIT ZEROcONE
cTWOcTHREEcFOURcFIVEcSIXcSEVENcEIGHTcNINEbCHARACTER ANGKHANKHUcKHOMUT"),
  (0xE81, "aLAO LETTER KOcKHO SUNG"),
  (0xE84, "aLAO LETTER KHO TAM"),
  (0xE86, "aLAO LETTER PALI GHAcNGOcCOcPALI CHAcSO TAM"),
  (0xE8C, "aLAO LETTER PALI JHAcNYOcPALI NYAdTTAdTTHAdDDAdDDHAdNNAcDOcTOcTHO SUNGdTAMcPALI DHA
cNOcBOcPOcPHO SUNGcFO TAMcPHO TAMcFO SUNGcPALI BHAcMOcYOcLO LING"),
  (0xEA5, "aLAO LETTER LO LOOT"),
  (0xEA7, "aLAO LETTER WOcSANSKRIT SHAdSSAcSO SUNGcHO SUNGcPALI LLAcOcHO TAMbELLIPSIS
bVOWEL SIGN AdMAI KANdAAdAMdIdIIdYdYYdUdUUbSIGN PALI VIRAMAbVOWEL SIGN MAI KONbSEMIVOWEL SIGN LO
dNYO"),
  (0xEC0, "aLAO VOWEL SIGN EdEIdOdAYdAI"),
  (0xEC6, "aLAO KO LA"),
  (0xEC8, "aLAO TONE MAI EKdTHOdTIdCATAWAbCANCELLATION MARKbNIGGAHITA"),
  (0xED0, "aLAO DIGIT ZEROcONEcTWOcTHREEcFOURcFIVEcSIXcSEVENcEIGHTcNINE"),
  (0xEDC, "aLAO HO NOcMObLETTER KHMU GOdNYO"),
  (0xF00, "aTIBETAN SYLLABLE OMbMARK GTER YIG MGO TRUNCATED Af-UM RNAM BCAD MAgGTER TSHEG MA
cINITIAL YIG MGO MDUN MAcCLOSING YIG MGO SGAB MAcCARET YIG MGO PHUR SHAD MA
cYIG MGO TSHEG SHAD MAcSBRUL SHADcBSKUR YIG MGOcBKA- SHOG YIG MGOcINTERSYLLABIC TSHEG
cDELIMITER TSHEG BSTARcSHADcNYIS SHADcTSHEG SHADcNYIS TSHEG SHADcRIN CHEN SPUNGS SHAD
cRGYA GRAM SHADcCARET -DZUD RTAGS ME LONG CANcGTER TSHEGbLOGOTYPE SIGN CHAD RTAGSdLHAG RTAGS
bASTROLOGICAL SIGN SGRA GCAN -CHAR RTAGSd-KHYUD PAdSDONG TSHUGSbSIGN RDEL DKAR GCIGeGNYISeGSUM
dNAG GCIGeGNYISdDKAR RDEL NAGbDIGIT ZEROcONEcTWOcTHREEcFOURcFIVEcSIXcSEVENcEIGHTcNINEcHALF ONE
dTWOdTHREEdFOURdFIVEdSIXdSEVENdEIGHTdNINEdZERObMARK BSDUS RTAGScNGAS BZUNG NYI ZLA
cCARET -DZUD RTAGS BZHI MIG CANcNGAS BZUNG SGOR RTAGScCHE MGOcTSA -PHRUcGUG RTAGS GYONeGYAS
cANG KHANG GYONeGYASbSIGN YAR TSHEScMAR TSHESbLETTER KAcKHAcGAcGHAcNGAcCAcCHAcJA"),
  (0xF49, "aTIBETAN LETTER NYAcTTAcTTHAcDDAcDDHAcNNAcTAcTHAcDAcDHAcNAcPAcPHAcBAcBHAcMAcTSAcTSHA
cDZAcDZHAcWAcZHAcZAc-AcYAcRAcLAcSHAcSSAcSAcHAcAcKSSAcFIXED-FORM RAcKKAcRRA"),
  (0xF71, "aTIBETAN VOWEL SIGN AAdIdIIdUdUUdVOCALIC ReRReLeLLdEdEEdOdOObSIGN RJES SU NGA RO
cRNAM BCADbVOWEL SIGN REVERSED IeIIbSIGN NYI ZLA NAA DAcSNA LDANbMARK HALANTAcPALUTA
bSIGN LCI RTAGScYANG RTAGScLCE TSA CANcMCHU CANcGRU CAN RGYINGSdMED RGYINGScINVERTED MCHU CAN
bSUBJOINED SIGN LCE TSA CANdMCHU CANdINVERTED MCHU CANcLETTER KAdKHAdGAdGHAdNGAdCAdCHAdJA"),
  (0xF99, "aTIBETAN SUBJOINED LETTER NYAdTTAdTTHAdDDAdDDHAdNNAdTAdTHAdDAdDHAdNAdPAdPHAdBAdBHAdMA
dTSAdTSHAdDZAdDZHAdWAdZHAdZAd-AdYAdRAdLAdSHAdSSAdSAdHAdAdKSSAdFIXED-FORM WAeYAeRA"),
  (0xFBE, "aTIBETAN KU RU KHAeBZHI MIG CANbCANTILLATION SIGN HEAVY BEATdLIGHT BEATdCANG TE-U
dSBUB -CHALbSYMBOL DRIL BUcRDO RJEcPADMA GDANcRDO RJE RGYA GRAMcPHUR PAcNOR BUeNYIS -KHYIL
eGSUM -KHYILeBZHI -KHYIL"),
  (0xFCE, "aTIBETAN SIGN RDEL NAG RDEL DKAReGSUMbMARK BSKA- SHOG GI MGO RGYAN
cMNYAM YIG GI MGO RGYANcNYIS TSHEGcINITIAL BRDA RNYING YIG MGO MDUN MA
cCLOSING BRDA RNYING YIG MGO SGAB MAaRIGHT-FACING SVASTI SIGNaLEFT-FACING SVASTI SIGN
aRIGHT-FACING SVASTI SIGN WITH DOTSaLEFT-FACING SVASTI SIGN WITH DOTS
aTIBETAN MARK LEADING MCHAN RTAGScTRAILING MCHAN RTAGS"),
  (0x1000, "aMYANMAR LETTER KAcKHAcGAcGHAcNGAcCAcCHAcJAcJHAcNYAcNNYAcTTAcTTHAcDDAcDDHAcNNAcTA
cTHAcDAcDHAcNAcPAcPHAcBAcBHAcMAcYAcRAcLAcWAcSAcHAcLLAcAcSHAN AcIcIIcUcUUcEcMON EcOcAU
bVOWEL SIGN TALL AAdAAdIdIIdUdUUdEdAIdMON IIeOdE ABOVEbSIGN ANUSVARAcDOT BELOWcVISARGAcVIRAMA
cASATbCONSONANT SIGN MEDIAL YAeRAeWAeHAbLETTER GREAT SAbDIGIT ZEROcONEcTWOcTHREEcFOURcFIVEcSIX
cSEVENcEIGHTcNINEbSIGN LITTLE SECTIONcSECTIONbSYMBOL LOCATIVEcCOMPLETEDcAFOREMENTIONEDcGENITIVE
bLETTER SHAcSSAcVOCALIC RdRRdLdLLbVOWEL SIGN VOCALIC ReRReLeLLbLETTER MON NGAdJHAdBBAdBBE
bCONSONANT SIGN MON MEDIAL NAfMAfLAbLETTER SGAW KAREN SHAbVOWEL SIGN SGAW KAREN EU
bTONE MARK SGAW KAREN HATHIfKE PHObLETTER WESTERN PWO KAREN THAfPWA
bVOWEL SIGN WESTERN PWO KAREN EUgUEbSIGN WESTERN PWO KAREN TONE-1fTONE-2fTONE-3fTONE-4fTONE-5
bLETTER EASTERN PWO KAREN NNAfYWAfGHWAbVOWEL SIGN GEBA KAREN IdKAYAH OEeUeEEbLETTER SHAN KAdKHA
dGAdCAdZAdNYAdDAdNAdPHAdFAdBAdTHAdHAbCONSONANT SIGN SHAN MEDIAL WAbVOWEL SIGN SHAN AAeEfABOVE
eFINAL YbSIGN SHAN TONE-2dTONE-3dTONE-5dTONE-6dCOUNCIL TONE-2eTONE-3eEMPHATIC TONE
bLETTER RUMAI PALAUNG FAbSIGN RUMAI PALAUNG TONE-5bSHAN DIGIT ZEROdONEdTWOdTHREEdFOURdFIVEdSIX
dSEVENdEIGHTdNINEbSIGN KHAMTI TONE-1dTONE-3bVOWEL SIGN AITON AeAIbSYMBOL SHAN ONEdEXCLAMATION
aGEORGIAN CAPITAL LETTER ANdBANdGANdDONdENdVINdZENdTANdINdKANdLASdMANdNARdONdPARdZHARdRAEdSAN
dTARdUNdPHARdKHARdGHANdQARdSHINdCHINdCANdJILdCILdCHARdXANdJHANdHAEdHEdHIEdWEdHARdHOE"),
  (0x10C7, "aGEORGIAN CAPITAL LETTER YN"),
  (0x10CD, "aGEORGIAN CAPITAL LETTER AEN"),
  (0x10D0, "aGEORGIAN LETTER ANcBANcGANcDONcENcVINcZENcTANcINcKANcLAScMANcNARcONcPARcZHARcRAE
cSANcTARcUNcPHARcKHARcGHANcQARcSHINcCHINcCANcJILcCILcCHARcXANcJHANcHAEcHEcHIEcWEcHARcHOEcFIcYN
cELIFIcTURNED GANcAINbPARAGRAPH SEPARATORaMODIFIER LETTER GEORGIAN NARaGEORGIAN LETTER AEN
cHARD SIGNcLABIAL SIGNaHANGUL CHOSEONG KIYEOKcSSANGKIYEOKcNIEUNcTIKEUTcSSANGTIKEUTcRIEULcMIEUM
cPIEUPcSSANGPIEUPcSIOScSSANGSIOScIEUNGcCIEUCcSSANGCIEUCcCHIEUCHcKHIEUKHcTHIEUTHcPHIEUPHcHIEUH
cNIEUN-KIYEOKcSSANGNIEUNcNIEUN-TIKEUTcNIEUN-PIEUPcTIKEUT-KIYEOKcRIEUL-NIEUNcSSANGRIEUL
cRIEUL-HIEUHcKAPYEOUNRIEULcMIEUM-PIEUPcKAPYEOUNMIEUMcPIEUP-KIYEOKcPIEUP-NIEUNcPIEUP-TIKEUT
cPIEUP-SIOScPIEUP-SIOS-KIYEOKcPIEUP-SIOS-TIKEUTcPIEUP-SIOS-PIEUPcPIEUP-SSANGSIOS
cPIEUP-SIOS-CIEUCcPIEUP-CIEUCcPIEUP-CHIEUCHcPIEUP-THIEUTHcPIEUP-PHIEUPHcKAPYEOUNPIEUP
cKAPYEOUNSSANGPIEUPcSIOS-KIYEOKcSIOS-NIEUNcSIOS-TIKEUTcSIOS-RIEULcSIOS-MIEUMcSIOS-PIEUP
cSIOS-PIEUP-KIYEOKcSIOS-SSANGSIOScSIOS-IEUNGcSIOS-CIEUCcSIOS-CHIEUCHcSIOS-KHIEUKHcSIOS-THIEUTH
cSIOS-PHIEUPHcSIOS-HIEUHcCHITUEUMSIOScCHITUEUMSSANGSIOScCEONGCHIEUMSIOScCEONGCHIEUMSSANGSIOS
cPANSIOScIEUNG-KIYEOKcIEUNG-TIKEUTcIEUNG-MIEUMcIEUNG-PIEUPcIEUNG-SIOScIEUNG-PANSIOScSSANGIEUNG
cIEUNG-CIEUCcIEUNG-CHIEUCHcIEUNG-THIEUTHcIEUNG-PHIEUPHcYESIEUNGcCIEUC-IEUNGcCHITUEUMCIEUC
cCHITUEUMSSANGCIEUCcCEONGCHIEUMCIEUCcCEONGCHIEUMSSANGCIEUCcCHIEUCH-KHIEUKHcCHIEUCH-HIEUH
cCHITUEUMCHIEUCHcCEONGCHIEUMCHIEUCHcPHIEUPH-PIEUPcKAPYEOUNPHIEUPHcSSANGHIEUHcYEORINHIEUH
cKIYEOK-TIKEUTcNIEUN-SIOScNIEUN-CIEUCcNIEUN-HIEUHcTIKEUT-RIEULcFILLERbJUNGSEONG FILLERcAcAEcYA
cYAEcEOcEcYEOcYEcOcWAcWAEcOEcYOcUcWEOcWEcWIcYUcEUcYIcIcA-OcA-UcYA-OcYA-YOcEO-OcEO-UcEO-EUcYEO-O
cYEO-UcO-EOcO-EcO-YEcO-OcO-UcYO-YAcYO-YAEcYO-YEOcYO-OcYO-IcU-AcU-AEcU-EO-EUcU-YEcU-UcYU-AcYU-EO
cYU-EcYU-YEOcYU-YEcYU-UcYU-IcEU-UcEU-EUcYI-UcI-AcI-YAcI-OcI-UcI-EUcI-ARAEAcARAEAcARAEA-EO
cARAEA-UcARAEA-IcSSANGARAEAcA-EUcYA-UcYEO-YAcO-YAcO-YAEbJONGSEONG KIYEOKcSSANGKIYEOKcKIYEOK-SIOS
cNIEUNcNIEUN-CIEUCcNIEUN-HIEUHcTIKEUTcRIEULcRIEUL-KIYEOKcRIEUL-MIEUMcRIEUL-PIEUPcRIEUL-SIOS
cRIEUL-THIEUTHcRIEUL-PHIEUPHcRIEUL-HIEUHcMIEUMcPIEUPcPIEUP-SIOScSIOScSSANGSIOScIEUNGcCIEUC
cCHIEUCHcKHIEUKHcTHIEUTHcPHIEUPHcHIEUHcKIYEOK-RIEULcKIYEOK-SIOS-KIYEOKcNIEUN-KIYEOKcNIEUN-TIKEUT
cNIEUN-SIOScNIEUN-PANSIOScNIEUN-THIEUTHcTIKEUT-KIYEOKcTIKEUT-RIEULcRIEUL-KIYEOK-SIOScRIEUL-NIEUN
cRIEUL-TIKEUTcRIEUL-TIKEUT-HIEUHcSSANGRIEULcRIEUL-MIEUM-KIYEOKcRIEUL-MIEUM-SIOScRIEUL-PIEUP-SIOS
cRIEUL-PIEUP-HIEUHcRIEUL-KAPYEOUNPIEUPcRIEUL-SSANGSIOScRIEUL-PANSIOScRIEUL-KHIEUKH
cRIEUL-YEORINHIEUHcMIEUM-KIYEOKcMIEUM-RIEULcMIEUM-PIEUPcMIEUM-SIOScMIEUM-SSANGSIOScMIEUM-PANSIOS
cMIEUM-CHIEUCHcMIEUM-HIEUHcKAPYEOUNMIEUMcPIEUP-RIEULcPIEUP-PHIEUPHcPIEUP-HIEUHcKAPYEOUNPIEUP
cSIOS-KIYEOKcSIOS-TIKEUTcSIOS-RIEULcSIOS-PIEUPcPANSIOScIEUNG-KIYEOKcIEUNG-SSANGKIYEOKcSSANGIEUNG
cIEUNG-KHIEUKHcYESIEUNGcYESIEUNG-SIOScYESIEUNG-PANSIOScPHIEUPH-PIEUPcKAPYEOUNPHIEUPHcHIEUH-NIEUN
cHIEUH-RIEULcHIEUH-MIEUMcHIEUH-PIEUPcYEORINHIEUHcKIYEOK-NIEUNcKIYEOK-PIEUPcKIYEOK-CHIEUCH
cKIYEOK-KHIEUKHcKIYEOK-HIEUHcSSANGNIEUNaETHIOPIC SYLLABLE HAcHUcHIcHAAcHEEcHEcHOcHOAcLAcLUcLI
cLAAcLEEcLEcLOcLWAcHHAcHHUcHHIcHHAAcHHEEcHHEcHHOcHHWAcMAcMUcMIcMAAcMEEcMEcMOcMWAcSZAcSZUcSZI
cSZAAcSZEEcSZEcSZOcSZWAcRAcRUcRIcRAAcREEcREcROcRWAcSAcSUcSIcSAAcSEEcSEcSOcSWAcSHAcSHUcSHIcSHAA
cSHEEcSHEcSHOcSHWAcQAcQUcQIcQAAcQEEcQEcQOcQOAcQWA"),
  (0x124A, "aETHIOPIC SYLLABLE QWIcQWAAcQWEEcQWE"),
  (0x1250, "aETHIOPIC SYLLABLE QHAcQHUcQHIcQHAAcQHEEcQHEcQHO"),
  (0x1258, "aETHIOPIC SYLLABLE QHWA"),
  (0x125A, "aETHIOPIC SYLLABLE QHWIcQHWAAcQHWEEcQHWE"),
  (0x1260, "aETHIOPIC SYLLABLE BAcBUcBIcBAAcBEEcBEcBOcBWAcVAcVUcVIcVAAcVEEcVEcVOcVWAcTAcTUcTI
cTAAcTEEcTEcTOcTWAcCAcCUcCIcCAAcCEEcCEcCOcCWAcXAcXUcXIcXAAcXEEcXEcXOcXOAcXWA"),
  (0x128A, "aETHIOPIC SYLLABLE XWIcXWAAcXWEEcXWE"),
  (0x1290, "aETHIOPIC SYLLABLE NAcNUcNIcNAAcNEEcNEcNOcNWAcNYAcNYUcNYIcNYAAcNYEEcNYEcNYOcNYWA
cGLOTTAL AdUdIdAAdEEdEdOdWAcKAcKUcKIcKAAcKEEcKEcKOcKOAcKWA"),
  (0x12B2, "aETHIOPIC SYLLABLE KWIcKWAAcKWEEcKWE"),
  (0x12B8, "aETHIOPIC SYLLABLE KXAcKXUcKXIcKXAAcKXEEcKXEcKXO"),
  (0x12C0, "aETHIOPIC SYLLABLE KXWA"),
  (0x12C2, "aETHIOPIC SYLLABLE KXWIcKXWAAcKXWEEcKXWE"),
  (0x12C8, "aETHIOPIC SYLLABLE WAcWUcWIcWAAcWEEcWEcWOcWOAcPHARYNGEAL AdUdIdAAdEEdEdO"),
  (0x12D8, "aETHIOPIC SYLLABLE ZAcZUcZIcZAAcZEEcZEcZOcZWAcZHAcZHUcZHIcZHAAcZHEEcZHEcZHOcZHWAcYA
cYUcYIcYAAcYEEcYEcYOcYOAcDAcDUcDIcDAAcDEEcDEcDOcDWAcDDAcDDUcDDIcDDAAcDDEEcDDEcDDOcDDWAcJAcJUcJI
cJAAcJEEcJEcJOcJWAcGAcGUcGIcGAAcGEEcGEcGOcGOAcGWA"),
  (0x1312, "aETHIOPIC SYLLABLE GWIcGWAAcGWEEcGWE"),
  (0x1318, "aETHIOPIC SYLLABLE GGAcGGUcGGIcGGAAcGGEEcGGEcGGOcGGWAAcTHAcTHUcTHIcTHAAcTHEEcTHEcTHO
cTHWAcCHAcCHUcCHIcCHAAcCHEEcCHEcCHOcCHWAcPHAcPHUcPHIcPHAAcPHEEcPHEcPHOcPHWAcTSAcTSUcTSIcTSAA
cTSEEcTSEcTSOcTSWAcTZAcTZUcTZIcTZAAcTZEEcTZEcTZOcTZOAcFAcFUcFIcFAAcFEEcFEcFOcFWAcPAcPUcPIcPAA
cPEEcPEcPOcPWAcRYAcMYAcFYA"),
  (0x135D, "aETHIOPIC COMBINING GEMINATION AND VOWEL LENGTH MARKcVOWEL LENGTH MARK
cGEMINATION MARKbSECTION MARKbWORDSPACEbFULL STOPbCOMMAbSEMICOLONbCOLONbPREFACE COLON
bQUESTION MARKbPARAGRAPH SEPARATORbDIGIT ONEcTWOcTHREEcFOURcFIVEcSIXcSEVENcEIGHTcNINEbNUMBER TEN
cTWENTYcTHIRTYcFORTYcFIFTYcSIXTYcSEVENTYcEIGHTYcNINETYcHUNDREDcTEN THOUSAND"),
  (0x1380, "aETHIOPIC SYLLABLE SEBATBEIT MWAcMWIcMWEEcMWEcSEBATBEIT BWAcBWIcBWEEcBWE
cSEBATBEIT FWAcFWIcFWEEcFWEcSEBATBEIT PWAcPWIcPWEEcPWEbTONAL MARK YIZETdDERETdRIKRIK
dSHORT RIKRIKdDIFATdKENATdCHIRETdHIDETdDERET-HIDETdKURT"),
  (0x13A0, "aCHEROKEE LETTER AcEcIcOcUcVcGAcKAcGEcGIcGOcGUcGVcHAcHEcHIcHOcHUcHVcLAcLEcLIcLOcLU
cLVcMAcMEcMIcMOcMUcNAcHNAcNAHcNEcNIcNOcNUcNVcQUAcQUEcQUIcQUOcQUUcQUVcSAcScSEcSIcSOcSUcSVcDAcTA
cDEcTEcDIcTIcDOcDUcDVcDLAcTLAcTLEcTLIcTLOcTLUcTLVcTSAcTSEcTSIcTSOcTSUcTSVcWAcWEcWIcWOcWUcWVcYA
cYEcYIcYOcYUcYVcMV"),
  (0x13F8, "aCHEROKEE SMALL LETTER YEdYIdYOdYUdYVdMV"),
  (0x1400, "aCANADIAN SYLLABICS HYPHENcEcAAIcIcIIcOcOOcY-CREE OOcCARRIER EEdIcAcAAcWE
cWEST-CREE WEcWIcWEST-CREE WIcWIIcWEST-CREE WIIcWOcWEST-CREE WOcWOOcWEST-CREE WOOcNASKAPI WOOcWA
cWEST-CREE WAcWAAcWEST-CREE WAAcNASKAPI WAAcAIcY-CREE WcGLOTTAL STOPcFINAL ACUTEdGRAVE
dBOTTOM HALF RINGdTOP HALF RINGdRIGHT HALF RINGdRINGdDOUBLE ACUTEeSHORT VERTICAL STROKES
dMIDDLE DOTdSHORT HORIZONTAL STROKEdPLUSdDOWN TACKcENcINcONcANcPEcPAAIcPIcPIIcPOcPOOcY-CREE POO
cCARRIER HEEdHIcPAcPAAcPWEcWEST-CREE PWEcPWIcWEST-CREE PWIcPWIIcWEST-CREE PWIIcPWOcWEST-CREE PWO
cPWOOcWEST-CREE PWOOcPWAcWEST-CREE PWAcPWAAcWEST-CREE PWAAcY-CREE PWAAcPcWEST-CREE PcCARRIER H
cTEcTAAIcTIcTIIcTOcTOOcY-CREE TOOcCARRIER DEEdDIcTAcTAAcTWEcWEST-CREE TWEcTWIcWEST-CREE TWIcTWII
cWEST-CREE TWIIcTWOcWEST-CREE TWOcTWOOcWEST-CREE TWOOcTWAcWEST-CREE TWAcTWAAcWEST-CREE TWAA
cNASKAPI TWAAcTcTTEcTTIcTTOcTTAcKEcKAAIcKIcKIIcKOcKOOcY-CREE KOOcKAcKAAcKWEcWEST-CREE KWEcKWI
cWEST-CREE KWIcKWIIcWEST-CREE KWIIcKWOcWEST-CREE KWOcKWOOcWEST-CREE KWOOcKWAcWEST-CREE KWAcKWAA
cWEST-CREE KWAAcNASKAPI KWAAcKcKWcSOUTH-SLAVEY KEHdKIHdKOHdKAHcCEcCAAIcCIcCIIcCOcCOOcY-CREE COO
cCAcCAAcCWEcWEST-CREE CWEcCWIcWEST-CREE CWIcCWIIcWEST-CREE CWIIcCWOcWEST-CREE CWOcCWOO
cWEST-CREE CWOOcCWAcWEST-CREE CWAcCWAAcWEST-CREE CWAAcNASKAPI CWAAcCcSAYISI THcMEcMAAIcMIcMIIcMO
cMOOcY-CREE MOOcMAcMAAcMWEcWEST-CREE MWEcMWIcWEST-CREE MWIcMWIIcWEST-CREE MWIIcMWOcWEST-CREE MWO
cMWOOcWEST-CREE MWOOcMWAcWEST-CREE MWAcMWAAcWEST-CREE MWAAcNASKAPI MWAAcMcWEST-CREE McMH
cATHAPASCAN McSAYISI McNEcNAAIcNIcNIIcNOcNOOcY-CREE NOOcNAcNAAcNWEcWEST-CREE NWEcNWA
cWEST-CREE NWAcNWAAcWEST-CREE NWAAcNASKAPI NWAAcNcCARRIER NGcNHcLEcLAAIcLIcLIIcLOcLOOcY-CREE LOO
cLAcLAAcLWEcWEST-CREE LWEcLWIcWEST-CREE LWIcLWIIcWEST-CREE LWIIcLWOcWEST-CREE LWOcLWOO
cWEST-CREE LWOOcLWAcWEST-CREE LWAcLWAAcWEST-CREE LWAAcLcWEST-CREE LcMEDIAL LcSEcSAAIcSIcSIIcSO
cSOOcY-CREE SOOcSAcSAAcSWEcWEST-CREE SWEcSWIcWEST-CREE SWIcSWIIcWEST-CREE SWIIcSWOcWEST-CREE SWO
cSWOOcWEST-CREE SWOOcSWAcWEST-CREE SWAcSWAAcWEST-CREE SWAAcNASKAPI SWAAcScATHAPASCAN ScSW
cBLACKFOOT ScMOOSE-CREE SKcNASKAPI SKWdS-WdSPWAdSTWAdSKWAdSCWAcSHEcSHIcSHIIcSHOcSHOOcSHAcSHAA
cSHWEcWEST-CREE SHWEcSHWIcWEST-CREE SHWIcSHWIIcWEST-CREE SHWIIcSHWOcWEST-CREE SHWOcSHWOO
cWEST-CREE SHWOOcSHWAcWEST-CREE SHWAcSHWAAcWEST-CREE SHWAAcSHcYEcYAAIcYIcYIIcYOcYOOcY-CREE YOO
cYAcYAAcYWEcWEST-CREE YWEcYWIcWEST-CREE YWIcYWIIcWEST-CREE YWIIcYWOcWEST-CREE YWOcYWOO
cWEST-CREE YWOOcYWAcWEST-CREE YWAcYWAAcWEST-CREE YWAAcNASKAPI YWAAcYcBIBLE-CREE YcWEST-CREE Y
cSAYISI YIcREcR-CREE REcWEST-CREE LEcRAAIcRIcRIIcROcROOcWEST-CREE LOcRAcRAAcWEST-CREE LAcRWAA
cWEST-CREE RWAAcRcWEST-CREE RcMEDIAL RcFEcFAAIcFIcFIIcFOcFOOcFAcFAAcFWAAcWEST-CREE FWAAcFcTHE
cN-CREE THEcTHIcN-CREE THIcTHIIcN-CREE THIIcTHOcTHOOcTHAcTHAAcTHWAAcWEST-CREE THWAAcTHcTTHEcTTHI
cTTHOcTTHAcTTHcTYEcTYIcTYOcTYAcNUNAVIK HEdHIdHIIdHOdHOOdHAdHAAdHcNUNAVUT HcHKcQAAIcQIcQIIcQOcQOO
cQAcQAAcQcTLHEcTLHIcTLHOcTLHAcWEST-CREE REdRIdROdRAcNGAAIcNGIcNGIIcNGOcNGOOcNGAcNGAAcNGcNNG
cSAYISI SHEdSHIdSHOdSHAcWOODS-CREE THEdTHIdTHOdTHAdTHcLHIcLHIIcLHOcLHOOcLHAcLHAAcLHcTH-CREE THE
dTHIdTHIIdTHOdTHOOdTHAdTHAAdTHcAIVILIK BcBLACKFOOT EdIdOdAdWEdWIdWOdWAdNEdNIdNOdNAdKEdKIdKOdKA
cSAYISI HEdHIdHOdHAcCARRIER GHUdGHOdGHEdGHEEdGHIdGHAdRUdROdREdREEdRIdRAdWUdWOdWEdWEEdWIdWAdHWU
dHWOdHWEdHWEEdHWIdHWAdTHUdTHOdTHEdTHEEdTHIdTHAdTTUdTTOdTTEdTTEEdTTIdTTAdPUdPOdPEdPEEdPIdPAdPdGU
dGOdGEdGEEdGIdGAdKHUdKHOdKHEdKHEEdKHIdKHAdKKUdKKOdKKEdKKEEdKKIdKKAdKKdNUdNOdNEdNEEdNIdNAdMUdMO
dMEdMEEdMIdMAdYUdYOdYEdYEEdYIdYAdJUcSAYISI JUcCARRIER JOdJEdJEEdJIcSAYISI JIcCARRIER JAdJJUdJJO
dJJEdJJEEdJJIdJJAdLUdLOdLEdLEEdLIdLAdDLUdDLOdDLEdDLEEdDLIdDLAdLHUdLHOdLHEdLHEEdLHIdLHAdTLHUdTLHO
dTLHEdTLHEEdTLHIdTLHAdTLUdTLOdTLEdTLEEdTLIdTLAdZUdZOdZEdZEEdZIdZAdZdINITIAL ZdDZUdDZOdDZEdDZEE
dDZIdDZAdSUdSOdSEdSEEdSIdSAdSHUdSHOdSHEdSHEEdSHIdSHAdSHdTSUdTSOdTSEdTSEEdTSIdTSAdCHUdCHOdCHE
dCHEEdCHIdCHAdTTSUdTTSOdTTSEdTTSEEdTTSIdTTSAcCHI SIGNcFULL STOPcQAIcNGAIcNNGIcNNGIIcNNGOcNNGOO
cNNGAcNNGAAcWOODS-CREE THWEEdTHWIdTHWIIdTHWOdTHWOOdTHWAdTHWAAdFINAL THcBLACKFOOT W
aOGHAM SPACE MARKbLETTER BEITHcLUIScFEARNcSAILcNIONcUATHcDAIRcTINNEcCOLLcCEIRTcMUINcGORTcNGEADAL
cSTRAIFcRUIScAILMcONNcURcEADHADHcIODHADHcEABHADHcORcUILLEANNcIFINcEAMHANCHOLLcPEITHbFEATHER MARK
bREVERSED FEATHER MARK"),
  (0x16A0, "aRUNIC LETTER FEHU FEOH FE FcVcURUZ UR UcYRcYcWcTHURISAZ THURS THORNcETHcANSUZ A
cOS OcAC AcAESCcLONG-BRANCH-OSS OcSHORT-TWIG-OSS OcOcOEcONcRAIDO RAD REID RcKAUNAcCENcKAUN KcG
cENGcGEBO GYFU GcGARcWUNJO WYNN WcHAGLAZ HcHAEGL HcLONG-BRANCH-HAGALL HcSHORT-TWIG-HAGALL H
cNAUDIZ NYD NAUD NcSHORT-TWIG-NAUD NcDOTTED-NcISAZ IS ISS IcEcJERAN JcGERcLONG-BRANCH-AR AE
cSHORT-TWIG-AR AcIWAZ EOHcPERTHO PEORTH PcALGIZ EOLHXcSOWILO ScSIGEL LONG-BRANCH-SOL S
cSHORT-TWIG-SOL ScCcZcTIWAZ TIR TYR TcSHORT-TWIG-TYR TcDcBERKANAN BEORC BJARKAN B
cSHORT-TWIG-BJARKAN BcDOTTED-PcOPEN-PcEHWAZ EH EcMANNAZ MAN McLONG-BRANCH-MADR M
cSHORT-TWIG-MADR McLAUKAZ LAGU LOGR LcDOTTED-LcINGWAZcINGcDAGAZ DAEG DcOTHALAN ETHEL OcEARcIOR
cCWEORTHcCALCcCEALCcSTANcLONG-BRANCH-YRcSHORT-TWIG-YRcICELANDIC-YRcQcXbSINGLE PUNCTUATION
bMULTIPLE PUNCTUATIONbCROSS PUNCTUATIONbARLAUG SYMBOLbTVIMADUR SYMBOLbBELGTHOR SYMBOLbLETTER K
cSHcOOcFRANKS CASKET OSeISeEHeACeAESC"),
  (0x1700, "aTAGALOG LETTER AcIcUcKAcGAcNGAcTAcDAcNAcPAcBAcMAcYAcRAcLAcWAcSAcHAbVOWEL SIGN IdU
bSIGN VIRAMAcPAMUDPOD"),
  (0x171F, "aTAGALOG LETTER ARCHAIC RAaHANUNOO LETTER AcIcUcKAcGAcNGAcTAcDAcNAcPAcBAcMAcYAcRAcLA
cWAcSAcHAbVOWEL SIGN IdUbSIGN PAMUDPODaPHILIPPINE SINGLE PUNCTUATIONbDOUBLE PUNCTUATION"),
  (0x1740, "aBUHID LETTER AcIcUcKAcGAcNGAcTAcDAcNAcPAcBAcMAcYAcRAcLAcWAcSAcHAbVOWEL SIGN IdU"),
  (0x1760, "aTAGBANWA LETTER AcIcUcKAcGAcNGAcTAcDAcNAcPAcBAcMAcYA"),
  (0x176E, "aTAGBANWA LETTER LAcWAcSA"),
  (0x1772, "aTAGBANWA VOWEL SIGN IdU"),
  (0x1780, "aKHMER LETTER KAcKHAcKOcKHOcNGOcCAcCHAcCOcCHOcNYOcDAcTTHAcDOcTTHOcNNOcTAcTHAcTOcTHO
cNOcBAcPHAcPOcPHOcMOcYOcROcLOcVOcSHAcSSOcSAcHAcLAcQAbINDEPENDENT VOWEL QAQdQAAdQIdQIIdQUdQUKdQUU
dQUUVdRYdRYYdLYdLYYdQEdQAIdQOO TYPE ONEfTWOdQAUbVOWEL INHERENT AQdAAcSIGN AAdIdIIdYdYYdUdUUdUA
dOEdYAdIEdEdAEdAIdOOdAUbSIGN NIKAHITcREAHMUKcYUUKALEAPINTUcMUUSIKATOANcTRIISAPcBANTOCcROBAT
cTOANDAKHIATcKAKABATcAHSDAcSAMYOK SANNYAcVIRIAMcCOENGcBATHAMASATcKHANcBARIYOOSANcCAMNUC PII KUUH
cLEK TOOcBEYYALcPHNAEK MUANcKOOMUUTbCURRENCY SYMBOL RIELbSIGN AVAKRAHASANYAcATTHACAN"),
  (0x17E0, "aKHMER DIGIT ZEROcONEcTWOcTHREEcFOURcFIVEcSIXcSEVENcEIGHTcNINE"),
  (0x17F0, "aKHMER SYMBOL LEK ATTAK SONeMUOYePIIeBEIeBUONePRAMePRAM-MUOYePRAM-PIIePRAM-BEI
ePRAM-BUON"),
  (0x1800, "aMONGOLIAN BIRGAbELLIPSISbCOMMAbFULL STOPbCOLONbFOUR DOTSbTODO SOFT HYPHEN
bSIBE SYLLABLE BOUNDARY MARKERbMANCHU COMMAcFULL STOPbNIRUGUbFREE VARIATION SELECTOR ONEeTWO
eTHREEbVOWEL SEPARATORbFREE VARIATION SELECTOR FOURbDIGIT ZEROcONEcTWOcTHREEcFOURcFIVEcSIXcSEVEN
cEIGHTcNINE"),
  (0x1820, "aMONGOLIAN LETTER AcEcIcOcUcOEcUEcEEcNAcANGcBAcPAcQAcGAcMAcLAcSAcSHAcTAcDAcCHAcJAcYA
cRAcWAcFAcKAcKHAcTSAcZAcHAAcZRAcLHAcZHIcCHIcTODO LONG VOWEL SIGNdEdIdOdUdOEdUEdANGdBAdPAdQAdGA
dMAdTAdDAdCHAdJAdTSAdYAdWAdKAdGAAdHAAdJIAdNIAdDZAcSIBE EdIdIYdUEdUdANGdKAdGAdHAdPAdSHAdTAdDAdJA
dFAdGAAdHAAdTSAdZAdRAAdCHAdZHAcMANCHU IdKAdRAdFAdZHAcCHA WITH TWO DOTS"),
  (0x1880, "aMONGOLIAN LETTER ALI GALI ANUSVARA ONEeVISARGA ONEeDAMARUeUBADAMAeINVERTED UBADAMA
eBALUDAeTHREE BALUDAeAeIeKAeNGAeCAeTTAeTTHAeDDAeNNAeTAeDAePAePHAeSSAeZHAeZAeAHcTODO ALI GALI TA
fZHAcMANCHU ALI GALI GHAfNGAfCAfJHAfTTAfDDHAfTAfDHAfSSAfCYAfZHAfZAcALI GALI HALF UfYA
cMANCHU ALI GALI BHAcALI GALI DAGALGAcMANCHU ALI GALI LHA"),
  (0x18B0, "aCANADIAN SYLLABICS OYcAYcAAYcWAYcPOYcPAYcPWOYcTAYcKAYcKWAYcMAYcNOYcNAYcLAYcSOYcSAY
cSHOYcSHAYcSHWOYcYOYcYAYcRAYcNWIcOJIBWAY NWIcNWIIcOJIBWAY NWIIcNWOcOJIBWAY NWOcNWOOcOJIBWAY NWOO
cRWEEcRWIcRWIIcRWOcRWOOcRWAcOJIBWAY PdTdKdCdMdNdSdSHcEASTERN WcWESTERN WcFINAL SMALL RING
dRAISED DOTcR-CREE RWEcWEST-CREE LOOdLAAcTHWEcTHWAcTTHWEcTTHOOcTTHAAcTLHWEcTLHOOcSAYISI SHWE
dSHOOdHOOcCARRIER GWUdDENE GEEdGAAdGWAcSAYISI JUUcCARRIER JWAcBEAVER DENE LeRcCARRIER DENTAL S"),
  (0x1900, "aLIMBU VOWEL-CARRIER LETTERbLETTER KAcKHAcGAcGHAcNGAcCAcCHAcJAcJHAcYANcTAcTHAcDAcDHA
cNAcPAcPHAcBAcBHAcMAcYAcRAcLAcWAcSHAcSSAcSAcHAcGYANcTRA"),
  (0x1920, "aLIMBU VOWEL SIGN AdIdUdEEdAIdOOdAUdEdObSUBJOINED LETTER YAdRAdWA"),
  (0x1930, "aLIMBU SMALL LETTER KAdNGAdANUSVARAdTAdNAdPAdMAdRAdLAbSIGN MUKPHRENGcKEMPHRENGcSA-I"),
  (0x1940, "aLIMBU SIGN LOO"),
  (0x1944, "aLIMBU EXCLAMATION MARKbQUESTION MARKbDIGIT ZEROcONEcTWOcTHREEcFOURcFIVEcSIXcSEVEN
cEIGHTcNINEaTAI LE LETTER KAdXAdNGAdTSAdSAdYAdTAdTHAdLAdPAdPHAdMAdFAdVAdHAdQAdKHAdTSHAdNAdAdIdEE
dEHdUdOOdOdUEdEdAUEdAI"),
  (0x1970, "aTAI LE LETTER TONE-2dTONE-3dTONE-4dTONE-5dTONE-6"),
  (0x1980, "aNEW TAI LUE LETTER HIGH QAeLOW QAeHIGH KAfXAfNGAeLOW KAfXAfNGAeHIGH TSAfSAfYA
eLOW TSAfSAfYAeHIGH TAfTHAfNAeLOW TAfTHAfNAeHIGH PAfPHAfMAeLOW PAfPHAfMAeHIGH FAfVAfLAeLOW FAfVA
fLAeHIGH HAfDAfBAeLOW HAfDAfBAeHIGH KVAfXVAeLOW KVAfXVAeHIGH SUAeLOW SUA"),
  (0x19B0, "aNEW TAI LUE VOWEL SIGN VOWEL SHORTENERfAAfIIfUfUUfEfAEfOfOAfUEfAYfAAYfUYfOYfOAYfUEY
fIYdLETTER FINAL VfNGfNfMfKfDfBdTONE MARK-1eMARK-2"),
  (0x19D0, "aNEW TAI LUE DIGIT ZEROeONEeTWOeTHREEeFOUReFIVEeSIXeSEVENeEIGHTeNINEdTHAM DIGIT ONE"),
  (0x19DE, "aNEW TAI LUE SIGN LAEeLAEVaKHMER SYMBOL PATHAMASATcMUOY KOETcPII KOETcBEI KOET
cBUON KOETcPRAM KOETcPRAM-MUOY KOETcPRAM-PII KOETcPRAM-BEI KOETcPRAM-BUON KOETcDAP KOET
cDAP-MUOY KOETcDAP-PII KOETcDAP-BEI KOETcDAP-BUON KOETcDAP-PRAM KOETcTUTEYASATcMUOY ROCcPII ROC
cBEI ROCcBUON ROCcPRAM ROCcPRAM-MUOY ROCcPRAM-PII ROCcPRAM-BEI ROCcPRAM-BUON ROCcDAP ROC
cDAP-MUOY ROCcDAP-PII ROCcDAP-BEI ROCcDAP-BUON ROCcDAP-PRAM ROCaBUGINESE LETTER KAcGAcNGAcNGKA
cPAcBAcMAcMPAcTAcDAcNAcNRAcCAcJAcNYAcNYCAcYAcRAcLAcVAcSAcAcHAbVOWEL SIGN IdUdEdOdAE"),
  (0x1A1E, "aBUGINESE PALLAWAbEND OF SECTIONaTAI THAM LETTER HIGH KAeKHAeKXAdLOW KAeKXAeKHAdNGA
dHIGH CAeCHAdLOW CAeSAeCHAdNYAdRATAdHIGH RATHAdDAdLOW RATHAdRANAdHIGH TAeTHAdLOW TAeTHAdNAdBA
dHIGH PAePHAeFAdLOW PAeFAePHAdMAdLOW YAdHIGH YAdRAdRUEdLAdLUEdWAdHIGH SHAeSSAeSAeHAdLLAdAdLOW HA
dIdIIdUdUUdEEdOOdLAEdGREAT SAcCONSONANT SIGN MEDIAL RAfLAeLA TANG LAIcSIGN MAI KANG LAI
cCONSONANT SIGN FINAL NGAeLOW PAeHIGH RATHA OR LOW PAeMAeBAeSA"),
  (0x1A60, "aTAI THAM SIGN SAKOTcVOWEL SIGN AeMAI SATeAAeTALL AAeIeIIeUEeUUEeUeUUeOeOA BELOWeOY
eEeAEeOOeAIeTHAM AIeOA ABOVEcSIGN MAI KANGdTONE-1dTONE-2dKHUEN TONE-3eTONE-4eTONE-5dRA HAAM
dMAI SAMdKHUEN-LUE KARAN"),
  (0x1A7F, "aTAI THAM COMBINING CRYPTOGRAMMIC DOTcHORA DIGIT ZEROeONEeTWOeTHREEeFOUReFIVEeSIX
eSEVENeEIGHTeNINE"),
  (0x1A90, "aTAI THAM THAM DIGIT ZEROeONEeTWOeTHREEeFOUReFIVEeSIXeSEVENeEIGHTeNINE"),
  (0x1AA0, "aTAI THAM SIGN WIANGdWIANGWAAKdSAWANdKEOWdHOYdDOKMAIdREVERSED ROTATED RANAdMAI YAMOK
dKAANdKAANKUUdSATKAANdSATKAANKUUdHANGdCAANG"),
  (0x1AB0, "aCOMBINING DOUBLED CIRCUMFLEX ACCENTbDIAERESIS-RINGbINFINITYbDOWNWARDS ARROW
bTRIPLE DOTbX-X BELOWbWIGGLY LINE BELOWbOPEN MARK BELOWbDOUBLE OPEN MARK BELOW
bLIGHT CENTRALIZATION STROKE BELOWbSTRONG CENTRALIZATION STROKE BELOWbPARENTHESES ABOVE
bDOUBLE PARENTHESES ABOVEbPARENTHESES BELOWcOVERLAYbLATIN SMALL LETTER W BELOWeTURNED W BELOW
bLEFT PARENTHESIS ABOVE LEFTbRIGHT PARENTHESIS ABOVE RIGHTbLEFT PARENTHESIS BELOW LEFT
bRIGHT PARENTHESIS BELOW RIGHTbSQUARE BRACKETS ABOVEbNUMBER SIGN ABOVE
bINVERTED DOUBLE ARCH ABOVEbPLUS SIGN ABOVEbDOUBLE PLUS SIGN ABOVEeBELOWbTRIPLE ACUTE ACCENT
bLATIN SMALL LETTER INSULAR GfRfT"),
  (0x1B00, "aBALINESE SIGN ULU RICEMdCANDRAcCECEKcSURANGcBISAHbLETTER AKARAdTEDUNGcIKARAdTEDUNG
cUKARAdTEDUNGcRA REPAeTEDUNGcLA LENGAeTEDUNGcEKARAcAIKARAcOKARAdTEDUNGcKAdMAHAPRANAcGAdGORAcNGA
cCAdLACAcJAdJERAcNYAcTA LATIKdMURDA MAHAPRANAcDA MURDA ALPAPRANAeMAHAPRANAcNA RAMBATcTAdTAWAcDA
dMADUcNAcPAdKAPALcBAdKEMBANGcMAcYAcRAcLAcWAcSA SAGAdSAPAdcHAbSIGN REREKANbVOWEL SIGN TEDUNGdULU
eSARIdSUKUeILUTdRA REPAfTEDUNGdLA LENGAfTEDUNGdTALINGeREPAeTEDUNGeREPA TEDUNGdPEPETeTEDUNG
bADEG ADEGbLETTER KAF SASAKcKHOT SASAKcTZIR SASAKcEF SASAKcVE SASAKcZAL SASAKcASYURA SASAK
cARCHAIC JNYA"),
  (0x1B50, "aBALINESE DIGIT ZEROcONEcTWOcTHREEcFOURcFIVEcSIXcSEVENcEIGHTcNINEbPANTIbPAMADAbWINDU
bCARIK PAMUNGKAHcSIKIcPARERENbPAMENENGbMUSICAL SYMBOL DONGdDENGdDUNGdDANGeSURANGdDINGdDAENG
dDEUNGdDAINGdDANG GEDEdCOMBINING TEGEHeENDEPeKEMPULeKEMPLIeJEGOGANeKEMPUL WITH JEGOGAN
eKEMPLI WITH JEGOGANeBENDEeGONGdRIGHT-HAND OPEN DUGfDAGeCLOSED TUKfTAKdLEFT-HAND OPEN PANGfPUNG
eCLOSED PLAKfPLUKeOPEN PINGbPANTI LANTANGbPAMADA LANTANG"),
  (0x1B80, "aSUNDANESE SIGN PANYECEKcPANGLAYARcPANGWISADbLETTER AcIcUcAEcOcEcEUcKAcQAcGAcNGAcCA
cJAcZAcNYAcTAcDAcNAcPAcFAcVAcBAcMAcYAcRAcLAcWAcSAcXAcHAbCONSONANT SIGN PAMINGKALdPANYAKRA
dPANYIKUbVOWEL SIGN PANGHULUdPANYUKUdPANAELAENGdPANOLONGdPAMEPETdPANEULEUNGbSIGN PAMAAEHcVIRAMA
bCONSONANT SIGN PASANGAN MAeWAbLETTER KHAcSYAbDIGIT ZEROcONEcTWOcTHREEcFOURcFIVEcSIXcSEVENcEIGHT
cNINEbAVAGRAHAbLETTER REUcLEUcBHAcFINAL KdMaBATAK LETTER AcSIMALUNGUN AcHAcSIMALUNGUN HA
cMANDAILING HAcBAcKARO BAcPAcSIMALUNGUN PAcNAcMANDAILING NAcWAcSIMALUNGUN WAcPAKPAK WAcGA
cSIMALUNGUN GAcJAcDAcRAcSIMALUNGUN RAcMAcSIMALUNGUN MAcSOUTHERN TAcNORTHERN TAcSAcSIMALUNGUN SA
cMANDAILING SAcYAcSIMALUNGUN YAcNGAcLAcSIMALUNGUN LAcNYAcCAcNDAcMBAcIcUbSIGN TOMPIbVOWEL SIGN E
dPAKPAK EdEEdIdKARO IdOdKARO OdUeFOR SIMALUNGUN SAbCONSONANT SIGN NGdHbPANGOLATbPANONGONAN"),
  (0x1BFC, "aBATAK SYMBOL BINDU NA METEKdPINARBORASdJUDULdPANGOLATaLEPCHA LETTER KAcKLAcKHAcGA
cGLAcNGAcCAcCHAcJAcNYAcTAcTHAcDAcNAcPAcPLAcPHAcFAcFLAcBAcBLAcMAcMLAcTSAcTSHAcDZAcYAcRAcLAcHAcHLA
cVAcSAcSHAcWAcAbSUBJOINED LETTER YAdRAbVOWEL SIGN AAdIdOdOOdUdUUdEbCONSONANT SIGN KdMdLdNdPdRdT
dNYIN-DOdKANGbSIGN RANcNUKTA"),
  (0x1C3B, "aLEPCHA PUNCTUATION TA-ROLcNYET THYOOM TA-ROLcCER-WAcTSHOOK CER-WAdbDIGIT ZEROcONE
cTWOcTHREEcFOURcFIVEcSIXcSEVENcEIGHTcNINE"),
  (0x1C4D, "aLEPCHA LETTER TTAcTTHAcDDAaOL CHIKI DIGIT ZEROdONEdTWOdTHREEdFOURdFIVEdSIXdSEVEN
dEIGHTdNINEcLETTER LAdATdAGdANGdALdLAAdAAKdAAJdAAMdAAWdLIdISdIHdINYdIRdLUdUCdUDdUNNdUYdLEdEPdEDD
dENdERRdLOdOTTdOBdOVdOHcMU TTUDDAGcGAAHLAA TTUDDAAGcMU-GAAHLAA TTUDDAAGcRELAAcPHAARKAAcAHAD
cPUNCTUATION MUCAADdDOUBLE MUCAADaCYRILLIC SMALL LETTER ROUNDED VEdLONG-LEGGED DEdNARROW O
dWIDE ESdTALL TEdTHREE-LEGGED TEdTALL HARD SIGNeYATdUNBLENDED UK"),
  (0x1C90, "aGEORGIAN MTAVRULI CAPITAL LETTER ANeBANeGANeDONeENeVINeZENeTANeINeKANeLASeMANeNAR
eONePAReZHAReRAEeSANeTAReUNePHAReKHAReGHANeQAReSHINeCHINeCANeJILeCILeCHAReXANeJHANeHAEeHEeHIEeWE
eHAReHOEeFIeYNeELIFIeTURNED GANeAIN"),
  (0x1CBD, "aGEORGIAN MTAVRULI CAPITAL LETTER AENeHARD SIGNeLABIAL SIGN
aSUNDANESE PUNCTUATION BINDU SURYAdPANGLONGdPURNAMAdCAKRAdLEU SATANGAdKA SATANGAdDA SATANGA
dBA SATANGA"),
  (0x1CD0, "aVEDIC TONE KARSHANAcSHARAcPRENKHAbSIGN NIHSHVASAcYAJURVEDIC MIDLINE SVARITA
bTONE YAJURVEDIC AGGRAVATED INDEPENDENT SVARITAdINDEPENDENT SVARITAdKATHAKA INDEPENDENT SVARITA
cCANDRA BELOWcYAJURVEDIC KATHAKA INDEPENDENT SVARITA SCHROEDERcDOUBLE SVARITAcTRIPLE SVARITA
cKATHAKA ANUDATTAcDOT BELOWcTWO DOTS BELOWcTHREE DOTS BELOW
cRIGVEDIC KASHMIRI INDEPENDENT SVARITAcATHARVAVEDIC INDEPENDENT SVARITAbSIGN VISARGA SVARITA
dUDATTAcREVERSED VISARGA UDATTAcVISARGA ANUDATTAcREVERSED VISARGA ANUDATTA
cVISARGA UDATTA WITH TAILdANUDATTA WITH TAILcANUSVARA ANTARGOMUKHAdBAHIRGOMUKHAdVAMAGOMUKHA
eWITH TAILcTIRYAKcHEXIFORM LONG ANUSVARAcLONG ANUSVARAcRTHANG LONG ANUSVARA
cANUSVARA UBHAYATO MUKHAcARDHAVISARGAcROTATED ARDHAVISARGAbTONE CANDRA ABOVEbSIGN JIHVAMULIYA
cUPADHMANIYAcATIKRAMAbTONE RING ABOVEcDOUBLE RING ABOVEbSIGN DOUBLE ANUSVARA ANTARGOMUKHA"),
  (0x1D00, "aLATIN LETTER SMALL CAPITAL AeAEbSMALL LETTER TURNED AE
bLETTER SMALL CAPITAL BARRED BeCeDeETHeEbSMALL LETTER TURNED OPEN EeIbLETTER SMALL CAPITAL JeK
eL WITH STROKEeMeREVERSED NeOeOPEN ObSMALL LETTER SIDEWAYS OeOPEN OeO WITH STROKEdTURNED OE
bLETTER SMALL CAPITAL OUbSMALL LETTER TOP HALF OdBOTTOM HALF ObLETTER SMALL CAPITAL PeREVERSED R
eTURNED ReTeUbSMALL LETTER SIDEWAYS UeDIAERESIZED UeTURNED MbLETTER SMALL CAPITAL VeWeZeEZH
cVOICED LARYNGEAL SPIRANTcAINaGREEK LETTER SMALL CAPITAL GAMMAeLAMDAePIeRHOePSI
aCYRILLIC LETTER SMALL CAPITAL ELaMODIFIER LETTER CAPITAL AdAEdBdBARRED BdDdEdREVERSED EdGdHdIdJ
dKdLdMdNdREVERSED NdOdOUdPdRdTdUdWcSMALL AdTURNED AdALPHAdTURNED AEdBdDdEdSCHWAdOPEN E
dTURNED OPEN EdGdTURNED IdKdMdENGdOdOPEN OdTOP HALF OdBOTTOM HALF OdPdTdUdSIDEWAYS UdTURNED MdV
dAINdBETAdGREEK GAMMAdDELTAdGREEK PHIdCHIaLATIN SUBSCRIPT SMALL LETTER IeReUeV
aGREEK SUBSCRIPT SMALL LETTER BETAeGAMMAeRHOePHIeCHIaLATIN SMALL LETTER UEdB WITH MIDDLE TILDE
dD WITH MIDDLE TILDEdF WITH MIDDLE TILDEdM WITH MIDDLE TILDEdN WITH MIDDLE TILDE
dP WITH MIDDLE TILDEdR WITH MIDDLE TILDEfFISHHOOK AND MIDDLE TILDEdS WITH MIDDLE TILDE
dT WITH MIDDLE TILDEdZ WITH MIDDLE TILDEdTURNED GaMODIFIER LETTER CYRILLIC EN
aLATIN SMALL LETTER INSULAR GdTH WITH STRIKETHROUGHcCAPITAL LETTER I WITH STROKE
cLETTER IOTA WITH STROKEdP WITH STROKEcCAPITAL LETTER U WITH STROKEcLETTER UPSILON WITH STROKE
dB WITH PALATAL HOOKdD WITH PALATAL HOOKdF WITH PALATAL HOOKdG WITH PALATAL HOOK
dK WITH PALATAL HOOKdL WITH PALATAL HOOKdM WITH PALATAL HOOKdN WITH PALATAL HOOK
dP WITH PALATAL HOOKdR WITH PALATAL HOOKdS WITH PALATAL HOOKdESH WITH PALATAL HOOK
dV WITH PALATAL HOOKdX WITH PALATAL HOOKdZ WITH PALATAL HOOKdA WITH RETROFLEX HOOK
dALPHA WITH RETROFLEX HOOKdD WITH HOOK AND TAILdE WITH RETROFLEX HOOKdOPEN E WITH RETROFLEX HOOK
dREVERSED OPEN E WITH RETROFLEX HOOKdSCHWA WITH RETROFLEX HOOKdI WITH RETROFLEX HOOK
dOPEN O WITH RETROFLEX HOOKdESH WITH RETROFLEX HOOKdU WITH RETROFLEX HOOK
dEZH WITH RETROFLEX HOOKaMODIFIER LETTER SMALL TURNED ALPHAdCeWITH CURLdETHdREVERSED OPEN EdF
dDOTLESS J WITH STROKEdSCRIPT GdTURNED HdI WITH STROKEdIOTAdCAPITAL IfWITH STROKE
dJ WITH CROSSED-TAILdL WITH RETROFLEX HOOKfPALATAL HOOKdCAPITAL LdM WITH HOOK
dTURNED M WITH LONG LEGdN WITH LEFT HOOKfRETROFLEX HOOKdCAPITAL NdBARRED OdPHIdS WITH HOOKdESH
dT WITH PALATAL HOOKdU BARdUPSILONdCAPITAL UdV WITH HOOKdTURNED VdZeWITH RETROFLEX HOOKfCURLdEZH
dTHETAaCOMBINING DOTTED GRAVE ACCENTcACUTE ACCENTbSNAKE BELOWbSUSPENSION MARKbMACRON-ACUTE
bGRAVE-MACRONbMACRON-GRAVEbACUTE-MACRONbGRAVE-ACUTE-GRAVEbACUTE-GRAVE-ACUTE
bLATIN SMALL LETTER R BELOWbBREVE-MACRONbMACRON-BREVEbDOUBLE CIRCUMFLEX ABOVEbOGONEK ABOVE
bZIGZAG BELOWbIS BELOWbUR ABOVEbUS ABOVEbLATIN SMALL LETTER FLATTENED OPEN A ABOVEeAEeAOeAV
eC CEDILLAeINSULAR DeETHeGcLETTER SMALL CAPITAL GcSMALL LETTER KeLcLETTER SMALL CAPITAL LfM
cSMALL LETTER NcLETTER SMALL CAPITAL NfRcSMALL LETTER R ROTUNDAeSeLONG SeZeALPHAeBeBETAeSCHWAeF
eL WITH DOUBLE MIDDLE TILDEeO WITH LIGHT CENTRALIZATION STROKEePeESH
eU WITH LIGHT CENTRALIZATION STROKEeWeA WITH DIAERESISeO WITH DIAERESISeU WITH DIAERESIS
bUP TACK ABOVEbKAVYKA ABOVE RIGHTdLEFTbDOT ABOVE LEFTbWIDE INVERTED BRIDGE BELOWbDOT BELOW LEFT
bDELETION MARKbDOUBLE INVERTED BREVE BELOWbALMOST EQUAL TO BELOWbLEFT ARROWHEAD ABOVE
bRIGHT ARROWHEAD AND DOWN ARROWHEAD BELOWaLATIN CAPITAL LETTER A WITH RING BELOW
bSMALL LETTER A WITH RING BELOWbCAPITAL LETTER B WITH DOT ABOVEbSMALL LETTER B WITH DOT ABOVE
bCAPITAL LETTER B WITH DOT BELOWbSMALL LETTER B WITH DOT BELOWbCAPITAL LETTER B WITH LINE BELOW
bSMALL LETTER B WITH LINE BELOWbCAPITAL LETTER C WITH CEDILLA AND ACUTE
bSMALL LETTER C WITH CEDILLA AND ACUTEbCAPITAL LETTER D WITH DOT ABOVE
bSMALL LETTER D WITH DOT ABOVEbCAPITAL LETTER D WITH DOT BELOWbSMALL LETTER D WITH DOT BELOW
bCAPITAL LETTER D WITH LINE BELOWbSMALL LETTER D WITH LINE BELOWbCAPITAL LETTER D WITH CEDILLA
bSMALL LETTER D WITH CEDILLAbCAPITAL LETTER D WITH CIRCUMFLEX BELOW
bSMALL LETTER D WITH CIRCUMFLEX BELOWbCAPITAL LETTER E WITH MACRON AND GRAVE
bSMALL LETTER E WITH MACRON AND GRAVEbCAPITAL LETTER E WITH MACRON AND ACUTE
bSMALL LETTER E WITH MACRON AND ACUTEbCAPITAL LETTER E WITH CIRCUMFLEX BELOW
bSMALL LETTER E WITH CIRCUMFLEX BELOWbCAPITAL LETTER E WITH TILDE BELOW
bSMALL LETTER E WITH TILDE BELOWbCAPITAL LETTER E WITH CEDILLA AND BREVE
bSMALL LETTER E WITH CEDILLA AND BREVEbCAPITAL LETTER F WITH DOT ABOVE
bSMALL LETTER F WITH DOT ABOVEbCAPITAL LETTER G WITH MACRONbSMALL LETTER G WITH MACRON
bCAPITAL LETTER H WITH DOT ABOVEbSMALL LETTER H WITH DOT ABOVEbCAPITAL LETTER H WITH DOT BELOW
bSMALL LETTER H WITH DOT BELOWbCAPITAL LETTER H WITH DIAERESISbSMALL LETTER H WITH DIAERESIS
bCAPITAL LETTER H WITH CEDILLAbSMALL LETTER H WITH CEDILLAbCAPITAL LETTER H WITH BREVE BELOW
bSMALL LETTER H WITH BREVE BELOWbCAPITAL LETTER I WITH TILDE BELOW
bSMALL LETTER I WITH TILDE BELOWbCAPITAL LETTER I WITH DIAERESIS AND ACUTE
bSMALL LETTER I WITH DIAERESIS AND ACUTEbCAPITAL LETTER K WITH ACUTEbSMALL LETTER K WITH ACUTE
bCAPITAL LETTER K WITH DOT BELOWbSMALL LETTER K WITH DOT BELOWbCAPITAL LETTER K WITH LINE BELOW
bSMALL LETTER K WITH LINE BELOWbCAPITAL LETTER L WITH DOT BELOWbSMALL LETTER L WITH DOT BELOW
bCAPITAL LETTER L WITH DOT BELOW AND MACRONbSMALL LETTER L WITH DOT BELOW AND MACRON
bCAPITAL LETTER L WITH LINE BELOWbSMALL LETTER L WITH LINE BELOW
bCAPITAL LETTER L WITH CIRCUMFLEX BELOWbSMALL LETTER L WITH CIRCUMFLEX BELOW
bCAPITAL LETTER M WITH ACUTEbSMALL LETTER M WITH ACUTEbCAPITAL LETTER M WITH DOT ABOVE
bSMALL LETTER M WITH DOT ABOVEbCAPITAL LETTER M WITH DOT BELOWbSMALL LETTER M WITH DOT BELOW
bCAPITAL LETTER N WITH DOT ABOVEbSMALL LETTER N WITH DOT ABOVEbCAPITAL LETTER N WITH DOT BELOW
bSMALL LETTER N WITH DOT BELOWbCAPITAL LETTER N WITH LINE BELOWbSMALL LETTER N WITH LINE BELOW
bCAPITAL LETTER N WITH CIRCUMFLEX BELOWbSMALL LETTER N WITH CIRCUMFLEX BELOW
bCAPITAL LETTER O WITH TILDE AND ACUTEbSMALL LETTER O WITH TILDE AND ACUTE
bCAPITAL LETTER O WITH TILDE AND DIAERESISbSMALL LETTER O WITH TILDE AND DIAERESIS
bCAPITAL LETTER O WITH MACRON AND GRAVEbSMALL LETTER O WITH MACRON AND GRAVE
bCAPITAL LETTER O WITH MACRON AND ACUTEbSMALL LETTER O WITH MACRON AND ACUTE
bCAPITAL LETTER P WITH ACUTEbSMALL LETTER P WITH ACUTEbCAPITAL LETTER P WITH DOT ABOVE
bSMALL LETTER P WITH DOT ABOVEbCAPITAL LETTER R WITH DOT ABOVEbSMALL LETTER R WITH DOT ABOVE
bCAPITAL LETTER R WITH DOT BELOWbSMALL LETTER R WITH DOT BELOW
bCAPITAL LETTER R WITH DOT BELOW AND MACRONbSMALL LETTER R WITH DOT BELOW AND MACRON
bCAPITAL LETTER R WITH LINE BELOWbSMALL LETTER R WITH LINE BELOWbCAPITAL LETTER S WITH DOT ABOVE
bSMALL LETTER S WITH DOT ABOVEbCAPITAL LETTER S WITH DOT BELOWbSMALL LETTER S WITH DOT BELOW
bCAPITAL LETTER S WITH ACUTE AND DOT ABOVEbSMALL LETTER S WITH ACUTE AND DOT ABOVE
bCAPITAL LETTER S WITH CARON AND DOT ABOVEbSMALL LETTER S WITH CARON AND DOT ABOVE
bCAPITAL LETTER S WITH DOT BELOW AND DOT ABOVEbSMALL LETTER S WITH DOT BELOW AND DOT ABOVE
bCAPITAL LETTER T WITH DOT ABOVEbSMALL LETTER T WITH DOT ABOVEbCAPITAL LETTER T WITH DOT BELOW
bSMALL LETTER T WITH DOT BELOWbCAPITAL LETTER T WITH LINE BELOWbSMALL LETTER T WITH LINE BELOW
bCAPITAL LETTER T WITH CIRCUMFLEX BELOWbSMALL LETTER T WITH CIRCUMFLEX BELOW
bCAPITAL LETTER U WITH DIAERESIS BELOWbSMALL LETTER U WITH DIAERESIS BELOW
bCAPITAL LETTER U WITH TILDE BELOWbSMALL LETTER U WITH TILDE BELOW
bCAPITAL LETTER U WITH CIRCUMFLEX BELOWbSMALL LETTER U WITH CIRCUMFLEX BELOW
bCAPITAL LETTER U WITH TILDE AND ACUTEbSMALL LETTER U WITH TILDE AND ACUTE
bCAPITAL LETTER U WITH MACRON AND DIAERESISbSMALL LETTER U WITH MACRON AND DIAERESIS
bCAPITAL LETTER V WITH TILDEbSMALL LETTER V WITH TILDEbCAPITAL LETTER V WITH DOT BELOW
bSMALL LETTER V WITH DOT BELOWbCAPITAL LETTER W WITH GRAVEbSMALL LETTER W WITH GRAVE
bCAPITAL LETTER W WITH ACUTEbSMALL LETTER W WITH ACUTEbCAPITAL LETTER W WITH DIAERESIS
bSMALL LETTER W WITH DIAERESISbCAPITAL LETTER W WITH DOT ABOVEbSMALL LETTER W WITH DOT ABOVE
bCAPITAL LETTER W WITH DOT BELOWbSMALL LETTER W WITH DOT BELOWbCAPITAL LETTER X WITH DOT ABOVE
bSMALL LETTER X WITH DOT ABOVEbCAPITAL LETTER X WITH DIAERESISbSMALL LETTER X WITH DIAERESIS
bCAPITAL LETTER Y WITH DOT ABOVEbSMALL LETTER Y WITH DOT ABOVEbCAPITAL LETTER Z WITH CIRCUMFLEX
bSMALL LETTER Z WITH CIRCUMFLEXbCAPITAL LETTER Z WITH DOT BELOWbSMALL LETTER Z WITH DOT BELOW
bCAPITAL LETTER Z WITH LINE BELOWbSMALL LETTER Z WITH LINE BELOWdH WITH LINE BELOW
dT WITH DIAERESISdW WITH RING ABOVEdY WITH RING ABOVEdA WITH RIGHT HALF RING
dLONG S WITH DOT ABOVEgDIAGONAL STROKEgHIGH STROKEbCAPITAL LETTER SHARP SbSMALL LETTER DELTA
bCAPITAL LETTER A WITH DOT BELOWbSMALL LETTER A WITH DOT BELOWbCAPITAL LETTER A WITH HOOK ABOVE
bSMALL LETTER A WITH HOOK ABOVEbCAPITAL LETTER A WITH CIRCUMFLEX AND ACUTE
bSMALL LETTER A WITH CIRCUMFLEX AND ACUTEbCAPITAL LETTER A WITH CIRCUMFLEX AND GRAVE
bSMALL LETTER A WITH CIRCUMFLEX AND GRAVEbCAPITAL LETTER A WITH CIRCUMFLEX AND HOOK ABOVE
bSMALL LETTER A WITH CIRCUMFLEX AND HOOK ABOVEbCAPITAL LETTER A WITH CIRCUMFLEX AND TILDE
bSMALL LETTER A WITH CIRCUMFLEX AND TILDEbCAPITAL LETTER A WITH CIRCUMFLEX AND DOT BELOW
bSMALL LETTER A WITH CIRCUMFLEX AND DOT BELOWbCAPITAL LETTER A WITH BREVE AND ACUTE
bSMALL LETTER A WITH BREVE AND ACUTEbCAPITAL LETTER A WITH BREVE AND GRAVE
bSMALL LETTER A WITH BREVE AND GRAVEbCAPITAL LETTER A WITH BREVE AND HOOK ABOVE
bSMALL LETTER A WITH BREVE AND HOOK ABOVEbCAPITAL LETTER A WITH BREVE AND TILDE
bSMALL LETTER A WITH BREVE AND TILDEbCAPITAL LETTER A WITH BREVE AND DOT BELOW
bSMALL LETTER A WITH BREVE AND DOT BELOWbCAPITAL LETTER E WITH DOT BELOW
bSMALL LETTER E WITH DOT BELOWbCAPITAL LETTER E WITH HOOK ABOVEbSMALL LETTER E WITH HOOK ABOVE
bCAPITAL LETTER E WITH TILDEbSMALL LETTER E WITH TILDE
bCAPITAL LETTER E WITH CIRCUMFLEX AND ACUTEbSMALL LETTER E WITH CIRCUMFLEX AND ACUTE
bCAPITAL LETTER E WITH CIRCUMFLEX AND GRAVEbSMALL LETTER E WITH CIRCUMFLEX AND GRAVE
bCAPITAL LETTER E WITH CIRCUMFLEX AND HOOK ABOVEbSMALL LETTER E WITH CIRCUMFLEX AND HOOK ABOVE
bCAPITAL LETTER E WITH CIRCUMFLEX AND TILDEbSMALL LETTER E WITH CIRCUMFLEX AND TILDE
bCAPITAL LETTER E WITH CIRCUMFLEX AND DOT BELOWbSMALL LETTER E WITH CIRCUMFLEX AND DOT BELOW
bCAPITAL LETTER I WITH HOOK ABOVEbSMALL LETTER I WITH HOOK ABOVEbCAPITAL LETTER I WITH DOT BELOW
bSMALL LETTER I WITH DOT BELOWbCAPITAL LETTER O WITH DOT BELOWbSMALL LETTER O WITH DOT BELOW
bCAPITAL LETTER O WITH HOOK ABOVEbSMALL LETTER O WITH HOOK ABOVE
bCAPITAL LETTER O WITH CIRCUMFLEX AND ACUTEbSMALL LETTER O WITH CIRCUMFLEX AND ACUTE
bCAPITAL LETTER O WITH CIRCUMFLEX AND GRAVEbSMALL LETTER O WITH CIRCUMFLEX AND GRAVE
bCAPITAL LETTER O WITH CIRCUMFLEX AND HOOK ABOVEbSMALL LETTER O WITH CIRCUMFLEX AND HOOK ABOVE
bCAPITAL LETTER O WITH CIRCUMFLEX AND TILDEbSMALL LETTER O WITH CIRCUMFLEX AND TILDE
bCAPITAL LETTER O WITH CIRCUMFLEX AND DOT BELOWbSMALL LETTER O WITH CIRCUMFLEX AND DOT BELOW
bCAPITAL LETTER O WITH HORN AND ACUTEbSMALL LETTER O WITH HORN AND ACUTE
bCAPITAL LETTER O WITH HORN AND GRAVEbSMALL LETTER O WITH HORN AND GRAVE
bCAPITAL LETTER O WITH HORN AND HOOK ABOVEbSMALL LETTER O WITH HORN AND HOOK ABOVE
bCAPITAL LETTER O WITH HORN AND TILDEbSMALL LETTER O WITH HORN AND TILDE
bCAPITAL LETTER O WITH HORN AND DOT BELOWbSMALL LETTER O WITH HORN AND DOT BELOW
bCAPITAL LETTER U WITH DOT BELOWbSMALL LETTER U WITH DOT BELOWbCAPITAL LETTER U WITH HOOK ABOVE
bSMALL LETTER U WITH HOOK ABOVEbCAPITAL LETTER U WITH HORN AND ACUTE
bSMALL LETTER U WITH HORN AND ACUTEbCAPITAL LETTER U WITH HORN AND GRAVE
bSMALL LETTER U WITH HORN AND GRAVEbCAPITAL LETTER U WITH HORN AND HOOK ABOVE
bSMALL LETTER U WITH HORN AND HOOK ABOVEbCAPITAL LETTER U WITH HORN AND TILDE
bSMALL LETTER U WITH HORN AND TILDEbCAPITAL LETTER U WITH HORN AND DOT BELOW
bSMALL LETTER U WITH HORN AND DOT BELOWbCAPITAL LETTER Y WITH GRAVEbSMALL LETTER Y WITH GRAVE
bCAPITAL LETTER Y WITH DOT BELOWbSMALL LETTER Y WITH DOT BELOWbCAPITAL LETTER Y WITH HOOK ABOVE
bSMALL LETTER Y WITH HOOK ABOVEbCAPITAL LETTER Y WITH TILDEbSMALL LETTER Y WITH TILDE
bCAPITAL LETTER MIDDLE-WELSH LLbSMALL LETTER MIDDLE-WELSH LLbCAPITAL LETTER MIDDLE-WELSH V
bSMALL LETTER MIDDLE-WELSH VbCAPITAL LETTER Y WITH LOOPbSMALL LETTER Y WITH LOOP
aGREEK SMALL LETTER ALPHA WITH PSILIfDASIAfPSILI AND VARIAfDASIA AND VARIAfPSILI AND OXIA
fDASIA AND OXIAfPSILI AND PERISPOMENIfDASIA AND PERISPOMENIbCAPITAL LETTER ALPHA WITH PSILI
fDASIAfPSILI AND VARIAfDASIA AND VARIAfPSILI AND OXIAfDASIA AND OXIAfPSILI AND PERISPOMENI
fDASIA AND PERISPOMENIbSMALL LETTER EPSILON WITH PSILIfDASIAfPSILI AND VARIAfDASIA AND VARIA
fPSILI AND OXIAfDASIA AND OXIA"),
  (0x1F18, "aGREEK CAPITAL LETTER EPSILON WITH PSILIfDASIAfPSILI AND VARIAfDASIA AND VARIA
fPSILI AND OXIAfDASIA AND OXIA"),
  (0x1F20, "aGREEK SMALL LETTER ETA WITH PSILIfDASIAfPSILI AND VARIAfDASIA AND VARIA
fPSILI AND OXIAfDASIA AND OXIAfPSILI AND PERISPOMENIfDASIA AND PERISPOMENI
bCAPITAL LETTER ETA WITH PSILIfDASIAfPSILI AND VARIAfDASIA AND VARIAfPSILI AND OXIA
fDASIA AND OXIAfPSILI AND PERISPOMENIfDASIA AND PERISPOMENIbSMALL LETTER IOTA WITH PSILIfDASIA
fPSILI AND VARIAfDASIA AND VARIAfPSILI AND OXIAfDASIA AND OXIAfPSILI AND PERISPOMENI
fDASIA AND PERISPOMENIbCAPITAL LETTER IOTA WITH PSILIfDASIAfPSILI AND VARIAfDASIA AND VARIA
fPSILI AND OXIAfDASIA AND OXIAfPSILI AND PERISPOMENIfDASIA AND PERISPOMENI
bSMALL LETTER OMICRON WITH PSILIfDASIAfPSILI AND VARIAfDASIA AND VARIAfPSILI AND OXIA
fDASIA AND OXIA"),
  (0x1F48, "aGREEK CAPITAL LETTER OMICRON WITH PSILIfDASIAfPSILI AND VARIAfDASIA AND VARIA
fPSILI AND OXIAfDASIA AND OXIA"),
  (0x1F50, "aGREEK SMALL LETTER UPSILON WITH PSILIfDASIAfPSILI AND VARIAfDASIA AND VARIA
fPSILI AND OXIAfDASIA AND OXIAfPSILI AND PERISPOMENIfDASIA AND PERISPOMENI"),
  (0x1F59, "aGREEK CAPITAL LETTER UPSILON WITH DASIA"),
  (0x1F5B, "aGREEK CAPITAL LETTER UPSILON WITH DASIA AND VARIA"),
  (0x1F5D, "aGREEK CAPITAL LETTER UPSILON WITH DASIA AND OXIA"),
  (0x1F5F, "aGREEK CAPITAL LETTER UPSILON WITH DASIA AND PERISPOMENI
bSMALL LETTER OMEGA WITH PSILIfDASIAfPSILI AND VARIAfDASIA AND VARIAfPSILI AND OXIA
fDASIA AND OXIAfPSILI AND PERISPOMENIfDASIA AND PERISPOMENIbCAPITAL LETTER OMEGA WITH PSILI
fDASIAfPSILI AND VARIAfDASIA AND VARIAfPSILI AND OXIAfDASIA AND OXIAfPSILI AND PERISPOMENI
fDASIA AND PERISPOMENIbSMALL LETTER ALPHA WITH VARIAfOXIAdEPSILON WITH VARIAfOXIAdETA WITH VARIA
fOXIAdIOTA WITH VARIAfOXIAdOMICRON WITH VARIAfOXIAdUPSILON WITH VARIAfOXIAdOMEGA WITH VARIAfOXIA"),
  (0x1F80, "aGREEK SMALL LETTER ALPHA WITH PSILI AND YPOGEGRAMMENIfDASIA AND YPOGEGRAMMENI
fPSILI AND VARIA AND YPOGEGRAMMENIfDASIA AND VARIA AND YPOGEGRAMMENI
fPSILI AND OXIA AND YPOGEGRAMMENIfDASIA AND OXIA AND YPOGEGRAMMENI
fPSILI AND PERISPOMENI AND YPOGEGRAMMENIfDASIA AND PERISPOMENI AND YPOGEGRAMMENI
bCAPITAL LETTER ALPHA WITH PSILI AND PROSGEGRAMMENIfDASIA AND PROSGEGRAMMENI
fPSILI AND VARIA AND PROSGEGRAMMENIfDASIA AND VARIA AND PROSGEGRAMMENI
fPSILI AND OXIA AND PROSGEGRAMMENIfDASIA AND OXIA AND PROSGEGRAMMENI
fPSILI AND PERISPOMENI AND PROSGEGRAMMENIfDASIA AND PERISPOMENI AND PROSGEGRAMMENI
bSMALL LETTER ETA WITH PSILI AND YPOGEGRAMMENIfDASIA AND YPOGEGRAMMENI
fPSILI AND VARIA AND YPOGEGRAMMENIfDASIA AND VARIA AND YPOGEGRAMMENI
fPSILI AND OXIA AND YPOGEGRAMMENIfDASIA AND OXIA AND YPOGEGRAMMENI
fPSILI AND PERISPOMENI AND YPOGEGRAMMENIfDASIA AND PERISPOMENI AND YPOGEGRAMMENI
bCAPITAL LETTER ETA WITH PSILI AND PROSGEGRAMMENIfDASIA AND PROSGEGRAMMENI
fPSILI AND VARIA AND PROSGEGRAMMENIfDASIA AND VARIA AND PROSGEGRAMMENI
fPSILI AND OXIA AND PROSGEGRAMMENIfDASIA AND OXIA AND PROSGEGRAMMENI
fPSILI AND PERISPOMENI AND PROSGEGRAMMENIfDASIA AND PERISPOMENI AND PROSGEGRAMMENI
bSMALL LETTER OMEGA WITH PSILI AND YPOGEGRAMMENIfDASIA AND YPOGEGRAMMENI
fPSILI AND VARIA AND YPOGEGRAMMENIfDASIA AND VARIA AND YPOGEGRAMMENI
fPSILI AND OXIA AND YPOGEGRAMMENIfDASIA AND OXIA AND YPOGEGRAMMENI
fPSILI AND PERISPOMENI AND YPOGEGRAMMENIfDASIA AND PERISPOMENI AND YPOGEGRAMMENI
bCAPITAL LETTER OMEGA WITH PSILI AND PROSGEGRAMMENIfDASIA AND PROSGEGRAMMENI
fPSILI AND VARIA AND PROSGEGRAMMENIfDASIA AND VARIA AND PROSGEGRAMMENI
fPSILI AND OXIA AND PROSGEGRAMMENIfDASIA AND OXIA AND PROSGEGRAMMENI
fPSILI AND PERISPOMENI AND PROSGEGRAMMENIfDASIA AND PERISPOMENI AND PROSGEGRAMMENI
bSMALL LETTER ALPHA WITH VRACHYfMACRONfVARIA AND YPOGEGRAMMENIfYPOGEGRAMMENI
fOXIA AND YPOGEGRAMMENI"),
  (0x1FB6, "aGREEK SMALL LETTER ALPHA WITH PERISPOMENIgAND YPOGEGRAMMENI
bCAPITAL LETTER ALPHA WITH VRACHYfMACRONfVARIAfOXIAfPROSGEGRAMMENIbKORONISbPROSGEGRAMMENIbPSILI
bPERISPOMENIbDIALYTIKA AND PERISPOMENIbSMALL LETTER ETA WITH VARIA AND YPOGEGRAMMENI
fYPOGEGRAMMENIfOXIA AND YPOGEGRAMMENI"),
  (0x1FC6, "aGREEK SMALL LETTER ETA WITH PERISPOMENIgAND YPOGEGRAMMENI
bCAPITAL LETTER EPSILON WITH VARIAfOXIAdETA WITH VARIAfOXIAfPROSGEGRAMMENIbPSILI AND VARIAdOXIA
dPERISPOMENIbSMALL LETTER IOTA WITH VRACHYfMACRONfDIALYTIKA AND VARIAhOXIA"),
  (0x1FD6, "aGREEK SMALL LETTER IOTA WITH PERISPOMENIfDIALYTIKA AND PERISPOMENI
bCAPITAL LETTER IOTA WITH VRACHYfMACRONfVARIAfOXIA"),
  (0x1FDD, "aGREEK DASIA AND VARIAdOXIAdPERISPOMENIbSMALL LETTER UPSILON WITH VRACHYfMACRON
fDIALYTIKA AND VARIAhOXIAdRHO WITH PSILIfDASIAdUPSILON WITH PERISPOMENI
fDIALYTIKA AND PERISPOMENIbCAPITAL LETTER UPSILON WITH VRACHYfMACRONfVARIAfOXIAdRHO WITH DASIA
bDIALYTIKA AND VARIAdOXIAbVARIA"),
  (0x1FF2, "aGREEK SMALL LETTER OMEGA WITH VARIA AND YPOGEGRAMMENIfYPOGEGRAMMENI
fOXIA AND YPOGEGRAMMENI"),
  (0x1FF6, "aGREEK SMALL LETTER OMEGA WITH PERISPOMENIgAND YPOGEGRAMMENI
bCAPITAL LETTER OMICRON WITH VARIAfOXIAdOMEGA WITH VARIAfOXIAfPROSGEGRAMMENIbOXIAbDASIA")]

end SourceLedger.CharacterName
