/-!
# Names in East Asian and further scripts

The characters from U+3000 to U+FFFF: kana, syllables, presentation forms and further scripts.
Each listing begins with the code point of its first character; how its names are written
is said where they are read.
-/

namespace SourceLedger.CharacterName

/-- The listings, in the order of their code points. -/
def eastAsianScripts : List (Nat × String) := [
  (0x3000, "aIDEOGRAPHIC SPACEbCOMMAbFULL STOPaDITTO MARKaJAPANESE INDUSTRIAL STANDARD SYMBOL
aIDEOGRAPHIC ITERATION MARKbCLOSING MARKbNUMBER ZEROaLEFT ANGLE BRACKETaRIGHT ANGLE BRACKET
aLEFT DOUBLE ANGLE BRACKETaRIGHT DOUBLE ANGLE BRACKETaLEFT CORNER BRACKETaRIGHT CORNER BRACKET
aLEFT WHITE CORNER BRACKETaRIGHT WHITE CORNER BRACKETaLEFT BLACK LENTICULAR BRACKET
aRIGHT BLACK LENTICULAR BRACKETaPOSTAL MARKaGETA MARKaLEFT TORTOISE SHELL BRACKET
aRIGHT TORTOISE SHELL BRACKETaLEFT WHITE LENTICULAR BRACKETaRIGHT WHITE LENTICULAR BRACKET
aLEFT WHITE TORTOISE SHELL BRACKETaRIGHT WHITE TORTOISE SHELL BRACKETaLEFT WHITE SQUARE BRACKET
aRIGHT WHITE SQUARE BRACKETaWAVE DASHaREVERSED DOUBLE PRIME QUOTATION MARK
aDOUBLE PRIME QUOTATION MARKaLOW DOUBLE PRIME QUOTATION MARKaPOSTAL MARK FACE
aHANGZHOU NUMERAL ONEcTWOcTHREEcFOURcFIVEcSIXcSEVENcEIGHTcNINEaIDEOGRAPHIC LEVEL TONE MARK
bRISING TONE MARKbDEPARTING TONE MARKbENTERING TONE MARKaHANGUL SINGLE DOT TONE MARK
bDOUBLE DOT TONE MARKaWAVY DASHaVERTICAL KANA REPEAT MARKdWITH VOICED SOUND MARKdMARK UPPER HALF
dWITH VOICED SOUND MARK UPPER HALFdMARK LOWER HALFaCIRCLED POSTAL MARK
aIDEOGRAPHIC TELEGRAPH LINE FEED SEPARATOR SYMBOLaHANGZHOU NUMERAL TENcTWENTYcTHIRTY
aVERTICAL IDEOGRAPHIC ITERATION MARKaMASU MARKaPART ALTERNATION MARK
aIDEOGRAPHIC VARIATION INDICATORbHALF FILL SPACE"),
  (0x3041, "aHIRAGANA LETTER SMALL AcAcSMALL IcIcSMALL UcUcSMALL EcEcSMALL OcOcKAcGAcKIcGIcKUcGU
cKEcGEcKOcGOcSAcZAcSIcZIcSUcZUcSEcZEcSOcZOcTAcDAcTIcDIcSMALL TUcTUcDUcTEcDEcTOcDOcNAcNIcNUcNEcNO
cHAcBAcPAcHIcBIcPIcHUcBUcPUcHEcBEcPEcHOcBOcPOcMAcMIcMUcMEcMOcSMALL YAcYAcSMALL YUcYUcSMALL YOcYO
cRAcRIcRUcREcROcSMALL WAcWAcWIcWEcWOcNcVUcSMALL KAdKE"),
  (0x3099, "aCOMBINING KATAKANA-HIRAGANA VOICED SOUND MARKcSEMI-VOICED SOUND MARK
aKATAKANA-HIRAGANA VOICED SOUND MARKbSEMI-VOICED SOUND MARKaHIRAGANA ITERATION MARK
bVOICED ITERATION MARKbDIGRAPH YORIaKATAKANA-HIRAGANA DOUBLE HYPHENaKATAKANA LETTER SMALL AcA
cSMALL IcIcSMALL UcUcSMALL EcEcSMALL OcOcKAcGAcKIcGIcKUcGUcKEcGEcKOcGOcSAcZAcSIcZIcSUcZUcSEcZE
cSOcZOcTAcDAcTIcDIcSMALL TUcTUcDUcTEcDEcTOcDOcNAcNIcNUcNEcNOcHAcBAcPAcHIcBIcPIcHUcBUcPUcHEcBEcPE
cHOcBOcPOcMAcMIcMUcMEcMOcSMALL YAcYAcSMALL YUcYUcSMALL YOcYOcRAcRIcRUcREcROcSMALL WAcWAcWIcWEcWO
cNcVUcSMALL KAdKEcVAcVIcVEcVObMIDDLE DOTaKATAKANA-HIRAGANA PROLONGED SOUND MARK
aKATAKANA ITERATION MARKbVOICED ITERATION MARKbDIGRAPH KOTO"),
  (0x3105, "aBOPOMOFO LETTER BcPcMcFcDcTcNcLcGcKcHcJcQcXcZHcCHcSHcRcZcCcScAcOcEcEHcAIcEIcAUcOU
cANcENcANGcENGcERcIcUcIUcVcNGcGNcIHcO WITH DOT ABOVEcNN"),
  (0x3131, "aHANGUL LETTER KIYEOKcSSANGKIYEOKcKIYEOK-SIOScNIEUNcNIEUN-CIEUCcNIEUN-HIEUHcTIKEUT
cSSANGTIKEUTcRIEULcRIEUL-KIYEOKcRIEUL-MIEUMcRIEUL-PIEUPcRIEUL-SIOScRIEUL-THIEUTHcRIEUL-PHIEUPH
cRIEUL-HIEUHcMIEUMcPIEUPcSSANGPIEUPcPIEUP-SIOScSIOScSSANGSIOScIEUNGcCIEUCcSSANGCIEUCcCHIEUCH
cKHIEUKHcTHIEUTHcPHIEUPHcHIEUHcAcAEcYAcYAEcEOcEcYEOcYEcOcWAcWAEcOEcYOcUcWEOcWEcWIcYUcEUcYIcI
bFILLERbLETTER SSANGNIEUNcNIEUN-TIKEUTcNIEUN-SIOScNIEUN-PANSIOScRIEUL-KIYEOK-SIOScRIEUL-TIKEUT
cRIEUL-PIEUP-SIOScRIEUL-PANSIOScRIEUL-YEORINHIEUHcMIEUM-PIEUPcMIEUM-SIOScMIEUM-PANSIOS
cKAPYEOUNMIEUMcPIEUP-KIYEOKcPIEUP-TIKEUTcPIEUP-SIOS-KIYEOKcPIEUP-SIOS-TIKEUTcPIEUP-CIEUC
cPIEUP-THIEUTHcKAPYEOUNPIEUPcKAPYEOUNSSANGPIEUPcSIOS-KIYEOKcSIOS-NIEUNcSIOS-TIKEUTcSIOS-PIEUP
cSIOS-CIEUCcPANSIOScSSANGIEUNGcYESIEUNGcYESIEUNG-SIOScYESIEUNG-PANSIOScKAPYEOUNPHIEUPH
cSSANGHIEUHcYEORINHIEUHcYO-YAcYO-YAEcYO-IcYU-YEOcYU-YEcYU-IcARAEAcARAEAE"),
  (0x3190, "aIDEOGRAPHIC ANNOTATION LINKING MARKcREVERSE MARKcONE MARKcTWO MARKcTHREE MARK
cFOUR MARKcTOP MARKcMIDDLE MARKcBOTTOM MARKcFIRST MARKcSECOND MARKcTHIRD MARKcFOURTH MARK
cHEAVEN MARKcEARTH MARKcMAN MARKaBOPOMOFO LETTER BUcZIcJIcGUcEEcENNcOOcONNcIRcANNcINNcUNNcIMcNGG
cAINNcAUNNcAMcOMcONGcINNNbFINAL LETTER PdTdKdHbLETTER GHcLHcZYbFINAL LETTER GbLETTER GWcKWcOEcAH
aCJK STROKE TcWGcXGcBXGcSWcHZZcHZGcHPcHZWGcSZWGcHZTcHZZPcHPWGcHZWcHZZZcNcHcScPcSPcDcHZcHGcSZcSWZ
cSTcSGcPDcPZcTNcSZZcSWGcHXWGcHZZZGcPGcQ"),
  (0x31F0, "aKATAKANA LETTER SMALL KUdSIdSUdTOdNUdHAdHIdHUdHEdHOdMUdRAdRIdRUdREdRO
aPARENTHESIZED HANGUL KIYEOKcNIEUNcTIKEUTcRIEULcMIEUMcPIEUPcSIOScIEUNGcCIEUCcCHIEUCHcKHIEUKH
cTHIEUTHcPHIEUPHcHIEUHcKIYEOK AcNIEUN AcTIKEUT AcRIEUL AcMIEUM AcPIEUP AcSIOS AcIEUNG AcCIEUC A
cCHIEUCH AcKHIEUKH AcTHIEUTH AcPHIEUPH AcHIEUH AcCIEUC UbKOREAN CHARACTER OJEONdO HU"),
  (0x3220, "aPARENTHESIZED IDEOGRAPH ONEcTWOcTHREEcFOURcFIVEcSIXcSEVENcEIGHTcNINEcTENcMOONcFIRE
cWATERcWOODcMETALcEARTHcSUNcSTOCKcHAVEcSOCIETYcNAMEcSPECIALcFINANCIALcCONGRATULATIONcLABOR
cREPRESENTcCALLcSTUDYcSUPERVISEcENTERPRISEcRESOURCEcALLIANCEcFESTIVALcRESTcSELFcREACH
aCIRCLED IDEOGRAPH QUESTIONcKINDERGARTENcSCHOOLcKOTObNUMBER TEN ON BLACK SQUARE
cTWENTY ON BLACK SQUAREcTHIRTY ON BLACK SQUAREcFORTY ON BLACK SQUAREcFIFTY ON BLACK SQUARE
cSIXTY ON BLACK SQUAREcSEVENTY ON BLACK SQUAREcEIGHTY ON BLACK SQUAREaPARTNERSHIP SIGN
aCIRCLED NUMBER TWENTY ONEdTWOdTHREEdFOURdFIVEdSIXdSEVENdEIGHTdNINEcTHIRTYdONEdTWOdTHREEdFOUR
dFIVEbHANGUL KIYEOKcNIEUNcTIKEUTcRIEULcMIEUMcPIEUPcSIOScIEUNGcCIEUCcCHIEUCHcKHIEUKHcTHIEUTH
cPHIEUPHcHIEUHcKIYEOK AcNIEUN AcTIKEUT AcRIEUL AcMIEUM AcPIEUP AcSIOS AcIEUNG AcCIEUC A
cCHIEUCH AcKHIEUKH AcTHIEUTH AcPHIEUPH AcHIEUH AbKOREAN CHARACTER CHAMKOdJUEUIbHANGUL IEUNG U
aKOREAN STANDARD SYMBOLaCIRCLED IDEOGRAPH ONEcTWOcTHREEcFOURcFIVEcSIXcSEVENcEIGHTcNINEcTENcMOON
cFIREcWATERcWOODcMETALcEARTHcSUNcSTOCKcHAVEcSOCIETYcNAMEcSPECIALcFINANCIALcCONGRATULATIONcLABOR
cSECRETcMALEcFEMALEcSUITABLEcEXCELLENTcPRINTcATTENTIONcITEMcRESTcCOPYcCORRECTcHIGHcCENTREcLOW
cLEFTcRIGHTcMEDICINEcRELIGIONcSTUDYcSUPERVISEcENTERPRISEcRESOURCEcALLIANCEcNIGHT
bNUMBER THIRTY SIXdSEVENdEIGHTdNINEcFORTYdONEdTWOdTHREEdFOURdFIVEdSIXdSEVENdEIGHTdNINEcFIFTY
aIDEOGRAPHIC TELEGRAPH SYMBOL FOR JANUARYeFEBRUARYeMARCHeAPRILeMAYeJUNEeJULYeAUGUSTeSEPTEMBER
eOCTOBEReNOVEMBEReDECEMBERaSQUARE HGbERGbEVaLIMITED LIABILITY SIGNaCIRCLED KATAKANA AcIcUcEcOcKA
cKIcKUcKEcKOcSAcSIcSUcSEcSOcTAcTIcTUcTEcTOcNAcNIcNUcNEcNOcHAcHIcHUcHEcHOcMAcMIcMUcMEcMOcYAcYUcYO
cRAcRIcRUcREcROcWAcWIcWEcWOaSQUARE ERA NAME REIWAbAPAATObARUHUAbANPEAbAARUbININGUbINTIbUON
bESUKUUDObEEKAAbONSUbOOMUbKAIRIbKARATTObKARORIIbGARONbGANMAbGIGAbGINIIbKYURIIbGIRUDAAbKIRO
bKIROGURAMUbKIROMEETORUbKIROWATTObGURAMUbGURAMUTONbKURUZEIRObKUROONEbKEESUbKORUNAbKOOPObSAIKURU
bSANTIIMUbSIRINGUbSENTIbSENTObDAASUbDESIbDORUbTONbNANObNOTTObHAITUbPAASENTObPAATUbBAARERU
bPIASUTORUbPIKURUbPIKObBIRUbHUARADDObHUIITObBUSSYERUbHURANbHEKUTAARUbPESObPENIHIbHERUTUbPENSU
bPEEZIbBEETAbPOINTObBORUTObHONbPONDObHOORUbHOONbMAIKURObMAIRUbMAHHAbMARUKUbMANSYONbMIKURONbMIRI
bMIRIBAARUbMEGAbMEGATONbMEETORUbYAADObYAARUbYUANbRITTORUbRIRAbRUPIIbRUUBURUbREMUbRENTOGENbWATTO
aIDEOGRAPHIC TELEGRAPH SYMBOL FOR HOUR ZEROfONEfTWOfTHREEfFOURfFIVEfSIXfSEVENfEIGHTfNINEfTEN
fELEVENfTWELVEfTHIRTEENfFOURTEENfFIFTEENfSIXTEENfSEVENTEENfEIGHTEENfNINETEENfTWENTYfTWENTY-ONE
fTWENTY-TWOfTWENTY-THREEfTWENTY-FOURaSQUARE HPAbDAbAUbBARbOVbPCbDMcSQUAREDcCUBEDbIU
bERA NAME HEISEIdSYOUWAdTAISYOUdMEIZIbCORPORATIONbPA AMPSbNAbMU AbMAbKAbKBbMBbGBbCALbKCALbPFbNF
bMU FcGbMGbKGbHZbKHZbMHZbGHZbTHZbMU LbMLbDLbKLbFMbNMbMU MbMMbCMbKMbMM SQUAREDbCM SQUARED
bM SQUAREDbKM SQUAREDbMM CUBEDbCM CUBEDbM CUBEDbKM CUBEDbM OVER SeSQUAREDbPAbKPAbMPAbGPAbRAD
cOVER SeSQUAREDbPSbNSbMU SbMSbPVbNVbMU VbMVbKVbMV MEGAbPWbNWbMU WbMWbKWbMW MEGAbK OHMbM OHMbAM
bBQbCCbCDbC OVER KGbCObDBbGYbHAbHPbINbKKbKM CAPITALbKTbLMbLNbLOGbLXbMB SMALLbMILbMOLbPHbPMbPPM
bPRbSRbSVbWBbV OVER MbA OVER MaIDEOGRAPHIC TELEGRAPH SYMBOL FOR DAY ONEfTWOfTHREEfFOURfFIVEfSIX
fSEVENfEIGHTfNINEfTENfELEVENfTWELVEfTHIRTEENfFOURTEENfFIFTEENfSIXTEENfSEVENTEENfEIGHTEEN
fNINETEENfTWENTYfTWENTY-ONEfTWENTY-TWOfTWENTY-THREEfTWENTY-FOURfTWENTY-FIVEfTWENTY-SIX
fTWENTY-SEVENfTWENTY-EIGHTfTWENTY-NINEfTHIRTYfTHIRTY-ONEaSQUARE GAL"),
  (0x4DC0, "aHEXAGRAM FOR THE CREATIVE HEAVENdRECEPTIVE EARTHcDIFFICULTY AT THE BEGINNING
cYOUTHFUL FOLLYcWAITINGcCONFLICTcTHE ARMYcHOLDING TOGETHERcSMALL TAMINGcTREADINGcPEACE
cSTANDSTILLcFELLOWSHIPcGREAT POSSESSIONcMODESTYcENTHUSIASMcFOLLOWINGcWORK ON THE DECAYED
cAPPROACHcCONTEMPLATIONcBITING THROUGHcGRACEcSPLITTING APARTcRETURNcINNOCENCEcGREAT TAMING
cMOUTH CORNERScGREAT PREPONDERANCEcTHE ABYSMAL WATERdCLINGING FIREcINFLUENCEcDURATIONcRETREAT
cGREAT POWERcPROGRESScDARKENING OF THE LIGHTcTHE FAMILYcOPPOSITIONcOBSTRUCTIONcDELIVERANCE
cDECREASEcINCREASEcBREAKTHROUGHcCOMING TO MEETcGATHERING TOGETHERcPUSHING UPWARDcOPPRESSION
cTHE WELLcREVOLUTIONcTHE CAULDRONdAROUSING THUNDERdKEEPING STILL MOUNTAINcDEVELOPMENT
cTHE MARRYING MAIDENcABUNDANCEcTHE WANDERERdGENTLE WINDdJOYOUS LAKEcDISPERSIONcLIMITATION
cINNER TRUTHcSMALL PREPONDERANCEcAFTER COMPLETIONcBEFORE COMPLETION"),
  (0xA000, "aYI SYLLABLE ITcIXcIcIPcIETcIEXcIEcIEPcATcAXcAcAPcUOXcUOcUOPcOTcOXcOcOPcEXcEcWUcBIT
cBIXcBIcBIPcBIETcBIEXcBIEcBIEPcBATcBAXcBAcBAPcBUOXcBUOcBUOPcBOTcBOXcBOcBOPcBEXcBEcBEPcBUTcBUXcBU
cBUPcBURXcBURcBYTcBYXcBYcBYPcBYRXcBYRcPITcPIXcPIcPIPcPIEXcPIEcPIEPcPATcPAXcPAcPAPcPUOXcPUOcPUOP
cPOTcPOXcPOcPOPcPUTcPUXcPUcPUPcPURXcPURcPYTcPYXcPYcPYPcPYRXcPYRcBBITcBBIXcBBIcBBIPcBBIETcBBIEX
cBBIEcBBIEPcBBATcBBAXcBBAcBBAPcBBUOXcBBUOcBBUOPcBBOTcBBOXcBBOcBBOPcBBEXcBBEcBBEPcBBUTcBBUXcBBU
cBBUPcBBURXcBBURcBBYTcBBYXcBBYcBBYPcNBITcNBIXcNBIcNBIPcNBIEXcNBIEcNBIEPcNBATcNBAXcNBAcNBAPcNBOT
cNBOXcNBOcNBOPcNBUTcNBUXcNBUcNBUPcNBURXcNBURcNBYTcNBYXcNBYcNBYPcNBYRXcNBYRcHMITcHMIXcHMIcHMIP
cHMIEXcHMIEcHMIEPcHMATcHMAXcHMAcHMAPcHMUOXcHMUOcHMUOPcHMOTcHMOXcHMOcHMOPcHMUTcHMUXcHMUcHMUP
cHMURXcHMURcHMYXcHMYcHMYPcHMYRXcHMYRcMITcMIXcMIcMIPcMIEXcMIEcMIEPcMATcMAXcMAcMAPcMUOTcMUOXcMUO
cMUOPcMOTcMOXcMOcMOPcMEXcMEcMUTcMUXcMUcMUPcMURXcMURcMYTcMYXcMYcMYPcFITcFIXcFIcFIPcFATcFAXcFAcFAP
cFOXcFOcFOPcFUTcFUXcFUcFUPcFURXcFURcFYTcFYXcFYcFYPcVITcVIXcVIcVIPcVIETcVIEXcVIEcVIEPcVATcVAXcVA
cVAPcVOTcVOXcVOcVOPcVEXcVEPcVUTcVUXcVUcVUPcVURXcVURcVYTcVYXcVYcVYPcVYRXcVYRcDITcDIXcDIcDIPcDIEX
cDIEcDIEPcDATcDAXcDAcDAPcDUOXcDUOcDOTcDOXcDOcDOPcDEXcDEcDEPcDUTcDUXcDUcDUPcDURXcDURcTITcTIXcTI
cTIPcTIEXcTIEcTIEPcTATcTAXcTAcTAPcTUOTcTUOXcTUOcTUOPcTOTcTOXcTOcTOPcTEXcTEcTEPcTUTcTUXcTUcTUP
cTURXcTURcDDITcDDIXcDDIcDDIPcDDIEXcDDIEcDDIEPcDDATcDDAXcDDAcDDAPcDDUOXcDDUOcDDUOPcDDOTcDDOXcDDO
cDDOPcDDEXcDDEcDDEPcDDUTcDDUXcDDUcDDUPcDDURXcDDURcNDITcNDIXcNDIcNDIPcNDIEXcNDIEcNDATcNDAXcNDA
cNDAPcNDOTcNDOXcNDOcNDOPcNDEXcNDEcNDEPcNDUTcNDUXcNDUcNDUPcNDURXcNDURcHNITcHNIXcHNIcHNIPcHNIET
cHNIEXcHNIEcHNIEPcHNATcHNAXcHNAcHNAPcHNUOXcHNUOcHNOTcHNOXcHNOPcHNEXcHNEcHNEPcHNUTcNITcNIXcNIcNIP
cNIEXcNIEcNIEPcNAXcNAcNAPcNUOXcNUOcNUOPcNOTcNOXcNOcNOPcNEXcNEcNEPcNUTcNUXcNUcNUPcNURXcNURcHLIT
cHLIXcHLIcHLIPcHLIEXcHLIEcHLIEPcHLATcHLAXcHLAcHLAPcHLUOXcHLUOcHLUOPcHLOXcHLOcHLOPcHLEXcHLEcHLEP
cHLUTcHLUXcHLUcHLUPcHLURXcHLURcHLYTcHLYXcHLYcHLYPcHLYRXcHLYRcLITcLIXcLIcLIPcLIETcLIEXcLIEcLIEP
cLATcLAXcLAcLAPcLUOTcLUOXcLUOcLUOPcLOTcLOXcLOcLOPcLEXcLEcLEPcLUTcLUXcLUcLUPcLURXcLURcLYTcLYXcLY
cLYPcLYRXcLYRcGITcGIXcGIcGIPcGIETcGIEXcGIEcGIEPcGATcGAXcGAcGAPcGUOTcGUOXcGUOcGUOPcGOTcGOXcGOcGOP
cGETcGEXcGEcGEPcGUTcGUXcGUcGUPcGURXcGURcKITcKIXcKIcKIPcKIEXcKIEcKIEPcKATcKAXcKAcKAPcKUOXcKUO
cKUOPcKOTcKOXcKOcKOPcKETcKEXcKEcKEPcKUTcKUXcKUcKUPcKURXcKURcGGITcGGIXcGGIcGGIEXcGGIEcGGIEPcGGAT
cGGAXcGGAcGGAPcGGUOTcGGUOXcGGUOcGGUOPcGGOTcGGOXcGGOcGGOPcGGETcGGEXcGGEcGGEPcGGUTcGGUXcGGUcGGUP
cGGURXcGGURcMGIEXcMGIEcMGATcMGAXcMGAcMGAPcMGUOXcMGUOcMGUOPcMGOTcMGOXcMGOcMGOPcMGEXcMGEcMGEPcMGUT
cMGUXcMGUcMGUPcMGURXcMGURcHXITcHXIXcHXIcHXIPcHXIETcHXIEXcHXIEcHXIEPcHXATcHXAXcHXAcHXAPcHXUOT
cHXUOXcHXUOcHXUOPcHXOTcHXOXcHXOcHXOPcHXEXcHXEcHXEPcNGIEXcNGIEcNGIEPcNGATcNGAXcNGAcNGAPcNGUOT
cNGUOXcNGUOcNGOTcNGOXcNGOcNGOPcNGEXcNGEcNGEPcHITcHIEXcHIEcHATcHAXcHAcHAPcHUOTcHUOXcHUOcHUOPcHOT
cHOXcHOcHOPcHEXcHEcHEPcWATcWAXcWAcWAPcWUOXcWUOcWUOPcWOXcWOcWOPcWEXcWEcWEPcZITcZIXcZIcZIPcZIEX
cZIEcZIEPcZATcZAXcZAcZAPcZUOXcZUOcZUOPcZOTcZOXcZOcZOPcZEXcZEcZEPcZUTcZUXcZUcZUPcZURXcZURcZYTcZYX
cZYcZYPcZYRXcZYRcCITcCIXcCIcCIPcCIETcCIEXcCIEcCIEPcCATcCAXcCAcCAPcCUOXcCUOcCUOPcCOTcCOXcCOcCOP
cCEXcCEcCEPcCUTcCUXcCUcCUPcCURXcCURcCYTcCYXcCYcCYPcCYRXcCYRcZZITcZZIXcZZIcZZIPcZZIETcZZIEXcZZIE
cZZIEPcZZATcZZAXcZZAcZZAPcZZOXcZZOcZZOPcZZEXcZZEcZZEPcZZUXcZZUcZZUPcZZURXcZZURcZZYTcZZYXcZZY
cZZYPcZZYRXcZZYRcNZITcNZIXcNZIcNZIPcNZIEXcNZIEcNZIEPcNZATcNZAXcNZAcNZAPcNZUOXcNZUOcNZOXcNZOP
cNZEXcNZEcNZUXcNZUcNZUPcNZURXcNZURcNZYTcNZYXcNZYcNZYPcNZYRXcNZYRcSITcSIXcSIcSIPcSIEXcSIEcSIEP
cSATcSAXcSAcSAPcSUOXcSUOcSUOPcSOTcSOXcSOcSOPcSEXcSEcSEPcSUTcSUXcSUcSUPcSURXcSURcSYTcSYXcSYcSYP
cSYRXcSYRcSSITcSSIXcSSIcSSIPcSSIEXcSSIEcSSIEPcSSATcSSAXcSSAcSSAPcSSOTcSSOXcSSOcSSOPcSSEXcSSE
cSSEPcSSUTcSSUXcSSUcSSUPcSSYTcSSYXcSSYcSSYPcSSYRXcSSYRcZHATcZHAXcZHAcZHAPcZHUOXcZHUOcZHUOPcZHOT
cZHOXcZHOcZHOPcZHETcZHEXcZHEcZHEPcZHUTcZHUXcZHUcZHUPcZHURXcZHURcZHYTcZHYXcZHYcZHYPcZHYRXcZHYR
cCHATcCHAXcCHAcCHAPcCHUOTcCHUOXcCHUOcCHUOPcCHOTcCHOXcCHOcCHOPcCHETcCHEXcCHEcCHEPcCHUXcCHUcCHUP
cCHURXcCHURcCHYTcCHYXcCHYcCHYPcCHYRXcCHYRcRRAXcRRAcRRUOXcRRUOcRROTcRROXcRROcRROPcRRETcRREXcRRE
cRREPcRRUTcRRUXcRRUcRRUPcRRURXcRRURcRRYTcRRYXcRRYcRRYPcRRYRXcRRYRcNRATcNRAXcNRAcNRAPcNROXcNRO
cNROPcNRETcNREXcNREcNREPcNRUTcNRUXcNRUcNRUPcNRURXcNRURcNRYTcNRYXcNRYcNRYPcNRYRXcNRYRcSHATcSHAX
cSHAcSHAPcSHUOXcSHUOcSHUOPcSHOTcSHOXcSHOcSHOPcSHETcSHEXcSHEcSHEPcSHUTcSHUXcSHUcSHUPcSHURXcSHUR
cSHYTcSHYXcSHYcSHYPcSHYRXcSHYRcRATcRAXcRAcRAPcRUOXcRUOcRUOPcROTcROXcROcROPcREXcREcREPcRUTcRUXcRU
cRUPcRURXcRURcRYTcRYXcRYcRYPcRYRXcRYRcJITcJIXcJIcJIPcJIETcJIEXcJIEcJIEPcJUOTcJUOXcJUOcJUOPcJOT
cJOXcJOcJOPcJUTcJUXcJUcJUPcJURXcJURcJYTcJYXcJYcJYPcJYRXcJYRcQITcQIXcQIcQIPcQIETcQIEXcQIEcQIEP
cQUOTcQUOXcQUOcQUOPcQOTcQOXcQOcQOPcQUTcQUXcQUcQUPcQURXcQURcQYTcQYXcQYcQYPcQYRXcQYRcJJITcJJIXcJJI
cJJIPcJJIETcJJIEXcJJIEcJJIEPcJJUOXcJJUOcJJUOPcJJOTcJJOXcJJOcJJOPcJJUTcJJUXcJJUcJJUPcJJURXcJJUR
cJJYTcJJYXcJJYcJJYPcNJITcNJIXcNJIcNJIPcNJIETcNJIEXcNJIEcNJIEPcNJUOXcNJUOcNJOTcNJOXcNJOcNJOPcNJUX
cNJUcNJUPcNJURXcNJURcNJYTcNJYXcNJYcNJYPcNJYRXcNJYRcNYITcNYIXcNYIcNYIPcNYIETcNYIEXcNYIEcNYIEP
cNYUOXcNYUOcNYUOPcNYOTcNYOXcNYOcNYOPcNYUTcNYUXcNYUcNYUPcXITcXIXcXIcXIPcXIETcXIEXcXIEcXIEPcXUOX
cXUOcXOTcXOXcXOcXOPcXYTcXYXcXYcXYPcXYRXcXYRcYITcYIXcYIcYIPcYIETcYIEXcYIEcYIEPcYUOTcYUOXcYUOcYUOP
cYOTcYOXcYOcYOPcYUTcYUXcYUcYUPcYURXcYURcYYTcYYXcYYcYYPcYYRXcYYR"),
  (0xA490, "aYI RADICAL QOTcLIcKITcNYIPcCYPcSSIcGGOPcGEPcMIcHXITcLYRcBBUTcMOPcYOcPUTcHXUOcTATcGA
cZUPcCYTcDDURcBURcGGUOcNYOPcTUcOPcJJUTcZOTcPYTcHMOcYITcVURcSHYcVEPcZAcJOcNZUPcJJYcGOTcJJIEcWOcDU
cSHURcLIEcCYcCUOPcCIPcHXOPcSHATcZURcSHOPcCHEcZZIETcNBIEcKE"),
  (0xA4D0, "aLISU LETTER BAcPAcPHAcDAcTAcTHAcGAcKAcKHAcJAcCAcCHAcDZAcTSAcTSHAcMAcNAcLAcSAcZHAcZA
cNGAcHAcXAcHHAcFAcWAcSHAcYAcGHAcAcAEcEcEUcIcOcUcUEcUHcOEcTONE MYA TIdNA POdMYA CYAeBOeNAeJEU
bPUNCTUATION COMMAcFULL STOPaVAI SYLLABLE EEcEENcHEEcWEEcWEENcPEEcBHEEcBEEcMBEEcKPEEcMGBEEcGBEE
cFEEcVEEcTEEcTHEEcDHEEcDHHEEcLEEcREEcDEEcNDEEcSEEcSHEEcZEEcZHEEcCEEcJEEcNJEEcYEEcKEEcNGGEEcGEE
cMEEcNEEcNYEEcIcINcHIcHINcWIcWINcPIcBHIcBIcMBIcKPIcMGBIcGBIcFIcVIcTIcTHIcDHIcDHHIcLIcRIcDIcNDI
cSIcSHIcZIcZHIcCIcJIcNJIcYIcKIcNGGIcGIcMIcNIcNYIcAcANcNGANcHAcHANcWAcWANcPAcBHAcBAcMBAcKPAcKPAN
cMGBAcGBAcFAcVAcTAcTHAcDHAcDHHAcLAcRAcDAcNDAcSAcSHAcZAcZHAcCAcJAcNJAcYAcKAcKANcNGGAcGAcMAcNAcNYA
cOOcOONcHOOcWOOcWOONcPOOcBHOOcBOOcMBOOcKPOOcMGBOOcGBOOcFOOcVOOcTOOcTHOOcDHOOcDHHOOcLOOcROOcDOO
cNDOOcSOOcSHOOcZOOcZHOOcCOOcJOOcNJOOcYOOcKOOcNGGOOcGOOcMOOcNOOcNYOOcUcUNcHUcHUNcWUcWUNcPUcBHUcBU
cMBUcKPUcMGBUcGBUcFUcVUcTUcTHUcDHUcDHHUcLUcRUcDUcNDUcSUcSHUcZUcZHUcCUcJUcNJUcYUcKUcNGGUcGUcMUcNU
cNYUcOcONcNGONcHOcHONcWOcWONcPOcBHOcBOcMBOcKPOcMGBOcGBOcGBONcFOcVOcTOcTHOcDHOcDHHOcLOcROcDOcNDO
cSOcSHOcZOcZHOcCOcJOcNJOcYOcKOcNGGOcGOcMOcNOcNYOcEcENcNGENcHEcHENcWEcWENcPEcBHEcBEcMBEcKPEcKPEN
cMGBEcGBEcGBENcFEcVEcTEcTHEcDHEcDHHEcLEcREcDEcNDEcSEcSHEcZEcZHEcCEcJEcNJEcYEcKEcNGGEcNGGENcGE
cGENcMEcNEcNYEcNGcLENGTHENERbCOMMAbFULL STOPbQUESTION MARKbSYLLABLE NDOLE FAdKAdSOObSYMBOL FEENG
cKEENGcTINGcNIIcBANGcFAAcTAAcDANGcDOONGcKUNGcTONGcDO-OcJONGbDIGIT ZEROcONEcTWOcTHREEcFOURcFIVE
cSIXcSEVENcEIGHTcNINEbSYLLABLE NDOLE MAdDO"),
  (0xA640, "aCYRILLIC CAPITAL LETTER ZEMLYAbSMALL LETTER ZEMLYAbCAPITAL LETTER DZELO
bSMALL LETTER DZELObCAPITAL LETTER REVERSED DZEbSMALL LETTER REVERSED DZEbCAPITAL LETTER IOTA
bSMALL LETTER IOTAbCAPITAL LETTER DJERVbSMALL LETTER DJERVbCAPITAL LETTER MONOGRAPH UK
bSMALL LETTER MONOGRAPH UKbCAPITAL LETTER BROAD OMEGAbSMALL LETTER BROAD OMEGA
bCAPITAL LETTER NEUTRAL YERbSMALL LETTER NEUTRAL YERbCAPITAL LETTER YERU WITH BACK YER
bSMALL LETTER YERU WITH BACK YERbCAPITAL LETTER IOTIFIED YATbSMALL LETTER IOTIFIED YAT
bCAPITAL LETTER REVERSED YUbSMALL LETTER REVERSED YUbCAPITAL LETTER IOTIFIED A
bSMALL LETTER IOTIFIED AbCAPITAL LETTER CLOSED LITTLE YUSbSMALL LETTER CLOSED LITTLE YUS
bCAPITAL LETTER BLENDED YUSbSMALL LETTER BLENDED YUSbCAPITAL LETTER IOTIFIED CLOSED LITTLE YUS
bSMALL LETTER IOTIFIED CLOSED LITTLE YUSbCAPITAL LETTER YNbSMALL LETTER YN
bCAPITAL LETTER REVERSED TSEbSMALL LETTER REVERSED TSEbCAPITAL LETTER SOFT DE
bSMALL LETTER SOFT DEbCAPITAL LETTER SOFT ELbSMALL LETTER SOFT ELbCAPITAL LETTER SOFT EM
bSMALL LETTER SOFT EMbCAPITAL LETTER MONOCULAR ObSMALL LETTER MONOCULAR O
bCAPITAL LETTER BINOCULAR ObSMALL LETTER BINOCULAR ObCAPITAL LETTER DOUBLE MONOCULAR O
bSMALL LETTER DOUBLE MONOCULAR ObLETTER MULTIOCULAR OaCOMBINING CYRILLIC VZMETcTEN MILLIONS SIGN
cHUNDRED MILLIONS SIGNcTHOUSAND MILLIONS SIGNaSLAVONIC ASTERISK
aCOMBINING CYRILLIC LETTER UKRAINIAN IEdIdYIdUdHARD SIGNdYERUdSOFT SIGNdOMEGAcKAVYKAcPAYEROK
aCYRILLIC KAVYKAbPAYEROKbCAPITAL LETTER DWEbSMALL LETTER DWEbCAPITAL LETTER DZWE
bSMALL LETTER DZWEbCAPITAL LETTER ZHWEbSMALL LETTER ZHWEbCAPITAL LETTER CCHEbSMALL LETTER CCHE
bCAPITAL LETTER DZZEbSMALL LETTER DZZEbCAPITAL LETTER TE WITH MIDDLE HOOK
bSMALL LETTER TE WITH MIDDLE HOOKbCAPITAL LETTER TWEbSMALL LETTER TWEbCAPITAL LETTER TSWE
bSMALL LETTER TSWEbCAPITAL LETTER TSSEbSMALL LETTER TSSEbCAPITAL LETTER TCHEbSMALL LETTER TCHE
bCAPITAL LETTER HWEbSMALL LETTER HWEbCAPITAL LETTER SHWEbSMALL LETTER SHWE
bCAPITAL LETTER DOUBLE ObSMALL LETTER DOUBLE ObCAPITAL LETTER CROSSED ObSMALL LETTER CROSSED O
aMODIFIER LETTER CYRILLIC HARD SIGNdSOFT SIGNaCOMBINING CYRILLIC LETTER EFdIOTIFIED E
aBAMUM LETTER AcKAcUcKUcEEcREEcTAEcOcNYIcIcLAcPAcRIIcRIEEcLEEEEcMEEEEcTAAcNDAAcNJAEMcMcSUUcMU
cSHIIcSIcSHEUXcSEUXcKYEEcKETcNUAEcNUcNJUAEcYOQcSHUcYUQcYAcNSHAcKEUXcPEUXcNJEEcNTEEcPUEcWUEcPEE
cFEEcRUcLUcMIcNIcREUXcRAEcKENcNGKWAENcNGGAcNGAcSHOcPUAEcFUcFOMcWAcNAcLIcPIcLOQcKOcMBENcRENcMEN
cMAcTIcKIcMOcMBAAcTETcKPAcTENcNTUUcSAMBAcFAAMAEcKOVUUcKOGHOMbCOMBINING MARK KOQNDONdTUKWENTIS
bNJAEMLIbFULL STOPbCOLONbCOMMAbSEMICOLONbQUESTION MARK"),
  (0xA700, "aMODIFIER LETTER CHINESE TONE YIN PINGeYANG PINGeYIN SHANGeYANG SHANGeYIN QUeYANG QU
eYIN RUeYANG RUcEXTRA-HIGH DOTTED TONE BARcHIGH DOTTED TONE BARcMID DOTTED TONE BAR
cLOW DOTTED TONE BARcEXTRA-LOW DOTTED TONE BARcEXTRA-HIGH DOTTED LEFT-STEM TONE BAR
cHIGH DOTTED LEFT-STEM TONE BARcMID DOTTED LEFT-STEM TONE BARcLOW DOTTED LEFT-STEM TONE BAR
cEXTRA-LOW DOTTED LEFT-STEM TONE BARcEXTRA-HIGH LEFT-STEM TONE BARcHIGH LEFT-STEM TONE BAR
cMID LEFT-STEM TONE BARcLOW LEFT-STEM TONE BARcEXTRA-LOW LEFT-STEM TONE BARcDOT VERTICAL BAR
dSLASHdHORIZONTAL BARcLOWER RIGHT CORNER ANGLEcRAISED UP ARROWdDOWN ARROWdEXCLAMATION MARK
dINVERTED EXCLAMATION MARKcLOW INVERTED EXCLAMATION MARKcSTRESS AND HIGH TONEeLOW TONE
aLATIN CAPITAL LETTER EGYPTOLOGICAL ALEFbSMALL LETTER EGYPTOLOGICAL ALEF
bCAPITAL LETTER EGYPTOLOGICAL AINbSMALL LETTER EGYPTOLOGICAL AINbCAPITAL LETTER HENG
bSMALL LETTER HENGbCAPITAL LETTER TZbSMALL LETTER TZbCAPITAL LETTER TRESILLO
bSMALL LETTER TRESILLObCAPITAL LETTER CUATRILLObSMALL LETTER CUATRILLO
bCAPITAL LETTER CUATRILLO WITH COMMAbSMALL LETTER CUATRILLO WITH COMMAbLETTER SMALL CAPITAL FeS
bCAPITAL LETTER AAbSMALL LETTER AAbCAPITAL LETTER AObSMALL LETTER AObCAPITAL LETTER AU
bSMALL LETTER AUbCAPITAL LETTER AVbSMALL LETTER AVbCAPITAL LETTER AV WITH HORIZONTAL BAR
bSMALL LETTER AV WITH HORIZONTAL BARbCAPITAL LETTER AYbSMALL LETTER AY
bCAPITAL LETTER REVERSED C WITH DOTbSMALL LETTER REVERSED C WITH DOT
bCAPITAL LETTER K WITH STROKEbSMALL LETTER K WITH STROKEbCAPITAL LETTER K WITH DIAGONAL STROKE
bSMALL LETTER K WITH DIAGONAL STROKEbCAPITAL LETTER K WITH STROKE AND DIAGONAL STROKE
bSMALL LETTER K WITH STROKE AND DIAGONAL STROKEbCAPITAL LETTER BROKEN LbSMALL LETTER BROKEN L
bCAPITAL LETTER L WITH HIGH STROKEbSMALL LETTER L WITH HIGH STROKE
bCAPITAL LETTER O WITH LONG STROKE OVERLAYbSMALL LETTER O WITH LONG STROKE OVERLAY
bCAPITAL LETTER O WITH LOOPbSMALL LETTER O WITH LOOPbCAPITAL LETTER OObSMALL LETTER OO
bCAPITAL LETTER P WITH STROKE THROUGH DESCENDERbSMALL LETTER P WITH STROKE THROUGH DESCENDER
bCAPITAL LETTER P WITH FLOURISHbSMALL LETTER P WITH FLOURISHbCAPITAL LETTER P WITH SQUIRREL TAIL
bSMALL LETTER P WITH SQUIRREL TAILbCAPITAL LETTER Q WITH STROKE THROUGH DESCENDER
bSMALL LETTER Q WITH STROKE THROUGH DESCENDERbCAPITAL LETTER Q WITH DIAGONAL STROKE
bSMALL LETTER Q WITH DIAGONAL STROKEbCAPITAL LETTER R ROTUNDAbSMALL LETTER R ROTUNDA
bCAPITAL LETTER RUM ROTUNDAbSMALL LETTER RUM ROTUNDAbCAPITAL LETTER V WITH DIAGONAL STROKE
bSMALL LETTER V WITH DIAGONAL STROKEbCAPITAL LETTER VYbSMALL LETTER VY
bCAPITAL LETTER VISIGOTHIC ZbSMALL LETTER VISIGOTHIC ZbCAPITAL LETTER THORN WITH STROKE
bSMALL LETTER THORN WITH STROKEbCAPITAL LETTER THORN WITH STROKE THROUGH DESCENDER
bSMALL LETTER THORN WITH STROKE THROUGH DESCENDERbCAPITAL LETTER VENDbSMALL LETTER VEND
bCAPITAL LETTER ETbSMALL LETTER ETbCAPITAL LETTER ISbSMALL LETTER ISbCAPITAL LETTER CON
bSMALL LETTER CONaMODIFIER LETTER USaLATIN SMALL LETTER DUMdLUMdMUMdNUMdRUM
bLETTER SMALL CAPITAL RUMbSMALL LETTER TUMdUMbCAPITAL LETTER INSULAR DbSMALL LETTER INSULAR D
bCAPITAL LETTER INSULAR FbSMALL LETTER INSULAR FbCAPITAL LETTER INSULAR GdTURNED INSULAR G
bSMALL LETTER TURNED INSULAR GbCAPITAL LETTER TURNED LbSMALL LETTER TURNED L
bCAPITAL LETTER INSULAR RbSMALL LETTER INSULAR RbCAPITAL LETTER INSULAR SbSMALL LETTER INSULAR S
bCAPITAL LETTER INSULAR TbSMALL LETTER INSULAR TaMODIFIER LETTER LOW CIRCUMFLEX ACCENTcCOLON
cSHORT EQUALS SIGNaLATIN CAPITAL LETTER SALTILLObSMALL LETTER SALTILLObCAPITAL LETTER TURNED H
bSMALL LETTER L WITH RETROFLEX HOOK AND BELTbLETTER SINOLOGICAL DOT
bCAPITAL LETTER N WITH DESCENDERbSMALL LETTER N WITH DESCENDERbCAPITAL LETTER C WITH BAR
bSMALL LETTER C WITH BARfPALATAL HOOKdH WITH PALATAL HOOKbCAPITAL LETTER B WITH FLOURISH
bSMALL LETTER B WITH FLOURISHbCAPITAL LETTER F WITH STROKEbSMALL LETTER F WITH STROKE
bCAPITAL LETTER VOLAPUK AEbSMALL LETTER VOLAPUK AEbCAPITAL LETTER VOLAPUK OE
bSMALL LETTER VOLAPUK OEbCAPITAL LETTER VOLAPUK UEbSMALL LETTER VOLAPUK UE
bCAPITAL LETTER G WITH OBLIQUE STROKEbSMALL LETTER G WITH OBLIQUE STROKE
bCAPITAL LETTER K WITH OBLIQUE STROKEbSMALL LETTER K WITH OBLIQUE STROKE
bCAPITAL LETTER N WITH OBLIQUE STROKEbSMALL LETTER N WITH OBLIQUE STROKE
bCAPITAL LETTER R WITH OBLIQUE STROKEbSMALL LETTER R WITH OBLIQUE STROKE
bCAPITAL LETTER S WITH OBLIQUE STROKEbSMALL LETTER S WITH OBLIQUE STROKE
bCAPITAL LETTER H WITH HOOKdREVERSED OPEN EdSCRIPT GdL WITH BELTdSMALL CAPITAL I
bLETTER SMALL CAPITAL QbCAPITAL LETTER TURNED KeTdJ WITH CROSSED-TAILdCHIdBETAbSMALL LETTER BETA
bCAPITAL LETTER OMEGAbSMALL LETTER OMEGAbCAPITAL LETTER U WITH STROKEbSMALL LETTER U WITH STROKE
bCAPITAL LETTER GLOTTAL AbSMALL LETTER GLOTTAL AbCAPITAL LETTER GLOTTAL IbSMALL LETTER GLOTTAL I
bCAPITAL LETTER GLOTTAL UbSMALL LETTER GLOTTAL UbCAPITAL LETTER OLD POLISH O
bSMALL LETTER OLD POLISH ObCAPITAL LETTER ANGLICANA WbSMALL LETTER ANGLICANA W
bCAPITAL LETTER C WITH PALATAL HOOKdS WITH HOOKdZ WITH PALATAL HOOKdD WITH SHORT STROKE OVERLAY
bSMALL LETTER D WITH SHORT STROKE OVERLAYbCAPITAL LETTER S WITH SHORT STROKE OVERLAY
bSMALL LETTER S WITH SHORT STROKE OVERLAY"),
  (0xA7D0, "aLATIN CAPITAL LETTER CLOSED INSULAR GbSMALL LETTER CLOSED INSULAR G"),
  (0xA7D3, "aLATIN SMALL LETTER DOUBLE THORN"),
  (0xA7D5, "aLATIN SMALL LETTER DOUBLE WYNNbCAPITAL LETTER MIDDLE SCOTS S
bSMALL LETTER MIDDLE SCOTS SbCAPITAL LETTER SIGMOID SbSMALL LETTER SIGMOID S"),
  (0xA7F2, "aMODIFIER LETTER CAPITAL CdFdQaLATIN CAPITAL LETTER REVERSED HALF H
bSMALL LETTER REVERSED HALF HbEPIGRAPHIC LETTER SIDEWAYS IaMODIFIER LETTER CAPITAL H WITH STROKE
cSMALL LIGATURE OEaLATIN LETTER SMALL CAPITAL TURNED MbEPIGRAPHIC LETTER REVERSED FePdINVERTED M
dI LONGAdARCHAIC MaSYLOTI NAGRI LETTER AdIcSIGN DVISVARAcLETTER UdEdOcSIGN HASANTAcLETTER KOdKHO
dGOdGHOcSIGN ANUSVARAcLETTER COdCHOdJOdJHOdTTOdTTHOdDDOdDDHOdTOdTHOdDOdDHOdNOdPOdPHOdBOdBHOdMO
dROdLOdRROdSOdHOcVOWEL SIGN AeIeUeEeOOcPOETRY MARK-1dMARK-2dMARK-3dMARK-4cSIGN ALTERNATE HASANTA"),
  (0xA830, "aNORTH INDIC FRACTION ONE QUARTEReHALFdTHREE QUARTERSdONE SIXTEENTHeEIGHTH
dTHREE SIXTEENTHScQUARTER MARKcPLACEHOLDER MARKcRUPEE MARKcQUANTITY MARK"),
  (0xA840, "aPHAGS-PA LETTER KAcKHAcGAcNGAcCAcCHAcJAcNYAcTAcTHAcDAcNAcPAcPHAcBAcMAcTSAcTSHAcDZA
cWAcZHAcZAcSMALL AcYAcRAcLAcSHAcSAcHAcAcIcUcEcOcQAcXAcFAcGGAcEEbSUBJOINED LETTER WAdYA
bLETTER TTAcTTHAcDDAcNNAcALTERNATE YAcVOICELESS SHAcVOICED HAcASPIRATED FAbSUBJOINED LETTER RA
bSUPERFIXED LETTER RAbLETTER CANDRABINDUbSINGLE HEAD MARKbDOUBLE HEAD MARKbMARK SHADcDOUBLE SHAD"),
  (0xA880, "aSAURASHTRA SIGN ANUSVARAcVISARGAbLETTER AcAAcIcIIcUcUUcVOCALIC RdRRdLdLLcEcEEcAIcO
cOOcAUcKAcKHAcGAcGHAcNGAcCAcCHAcJAcJHAcNYAcTTAcTTHAcDDAcDDHAcNNAcTAcTHAcDAcDHAcNAcPAcPHAcBAcBHA
cMAcYAcRAcLAcVAcSHAcSSAcSAcHAcLLAbCONSONANT SIGN HAARUbVOWEL SIGN AAdIdIIdUdUUdVOCALIC ReRReLeLL
dEdEEdAIdOdOOdAUbSIGN VIRAMAcCANDRABINDU"),
  (0xA8CE, "aSAURASHTRA DANDAbDOUBLE DANDAbDIGIT ZEROcONEcTWOcTHREEcFOURcFIVEcSIXcSEVENcEIGHT
cNINE"),
  (0xA8E0, "aCOMBINING DEVANAGARI DIGIT ZEROdONEdTWOdTHREEdFOURdFIVEdSIXdSEVENdEIGHTdNINE
cLETTER AdUdKAdNAdPAdRAdVIcSIGN AVAGRAHAaDEVANAGARI SIGN SPACING CANDRABINDUcCANDRABINDU VIRAMA
cDOUBLE CANDRABINDU VIRAMAcCANDRABINDU TWOdTHREEdAVAGRAHAcPUSHPIKAbGAP FILLERbCARETbHEADSTROKE
bSIGN SIDDHAMbJAIN OMbLETTER AYbVOWEL SIGN AYaKAYAH LI DIGIT ZEROdONEdTWOdTHREEdFOURdFIVEdSIX
dSEVENdEIGHTdNINEcLETTER KAdKHAdGAdNGAdSAdSHAdZAdNYAdTAdHTAdNAdPAdPHAdMAdDAdBAdRAdYAdLAdWAdTHA
dHAdVAdCAdAdOEdIdOOcVOWEL UEdEdUdEEdOcTONE PLOPHUdCALYAePLOPHUcSIGN CWIdSHYAaREJANG LETTER KAcGA
cNGAcTAcDAcNAcPAcBAcMAcCAcJAcNYAcSAcRAcLAcYAcWAcHAcMBAcNGGAcNDAcNYJAcAbVOWEL SIGN IdUdEdAIdOdAU
dEUdEAbCONSONANT SIGN NGdNdRdHbVIRAMA"),
  (0xA95F, "aREJANG SECTION MARKaHANGUL CHOSEONG TIKEUT-MIEUMcTIKEUT-PIEUPcTIKEUT-SIOS
cTIKEUT-CIEUCcRIEUL-KIYEOKcRIEUL-SSANGKIYEOKcRIEUL-TIKEUTcRIEUL-SSANGTIKEUTcRIEUL-MIEUM
cRIEUL-PIEUPcRIEUL-SSANGPIEUPcRIEUL-KAPYEOUNPIEUPcRIEUL-SIOScRIEUL-CIEUCcRIEUL-KHIEUKH
cMIEUM-KIYEOKcMIEUM-TIKEUTcMIEUM-SIOScPIEUP-SIOS-THIEUTHcPIEUP-KHIEUKHcPIEUP-HIEUH
cSSANGSIOS-PIEUPcIEUNG-RIEULcIEUNG-HIEUHcSSANGCIEUC-HIEUHcSSANGTHIEUTHcPHIEUPH-HIEUHcHIEUH-SIOS
cSSANGYEORINHIEUH"),
  (0xA980, "aJAVANESE SIGN PANYANGGAcCECAKcLAYARcWIGNYANbLETTER AcI KAWIdcIIcUcPA CEREK
cNGA LELETeRASWADIcEcAIcOcKAdSASAKdMURDAcGAdMURDAcNGAcCAdMURDAcJAcNYA MURDAcJA MAHAPRANAcNYAcTTA
dMAHAPRANAcDDAdMAHAPRANAcNA MURDAcTAdMURDAcDAdMAHAPRANAcNAcPAdMURDAcBAdMURDAcMAcYAcRAdAGUNGcLA
cWAcSA MURDAdMAHAPRANAdcHAbSIGN CECAK TELUbVOWEL SIGN TARUNGdTOLONGdWULUeMELIKdSUKUeMENDUT
dTALINGdDIRGA MUREdPEPETbCONSONANT SIGN KERETdPENGKALdCAKRAbPANGKONbLEFT RERENGGAN
bRIGHT RERENGGANbPADA ANDAPcMADYAcLUHURcWINDUcPANGKATcLINGSAcLUNGSIcADEGdADEGcPISELEH
bTURNED PADA PISELEH"),
  (0xA9CF, "aJAVANESE PANGRANGKEPbDIGIT ZEROcONEcTWOcTHREEcFOURcFIVEcSIXcSEVENcEIGHTcNINE"),
  (0xA9DE, "aJAVANESE PADA TIRTA TUMETEScISEN-ISENaMYANMAR LETTER SHAN GHAdCHAdJHAdNNAdBHA
bSIGN SHAN SAWbMODIFIER LETTER SHAN REDUPLICATIONbLETTER TAI LAING NYAeFAeGAeGHAeJAeJHAeDDAeDDHA
eNNAbTAI LAING DIGIT ZEROeONEeTWOeTHREEeFOUReFIVEeSIXeSEVENeEIGHTeNINEbLETTER TAI LAING LLAeDA
eDHAeBAeBHA"),
  (0xAA00, "aCHAM LETTER AcIcUcEcAIcOcKAcKHAcGAcGHAcNGUEcNGAcCHAcCHHAcJAcJHAcNHUEcNHAcNHJAcTA
cTHAcDAcDHAcNUEcNAcDDAcPAcPPAcPHAcBAcBHAcMUEcMAcBBAcYAcRAcLAcVAcSSAcSAcHAbVOWEL SIGN AAdIdIIdEI
dUdOEdOdAIdAUdUEbCONSONANT SIGN YAdRAdLAdWA"),
  (0xAA40, "aCHAM LETTER FINAL KdGdNGbCONSONANT SIGN FINAL NGbLETTER FINAL CHdTdNdPdYdRdLdSS
bCONSONANT SIGN FINAL MeH"),
  (0xAA50, "aCHAM DIGIT ZEROcONEcTWOcTHREEcFOURcFIVEcSIXcSEVENcEIGHTcNINE"),
  (0xAA5C, "aCHAM PUNCTUATION SPIRALcDANDAcDOUBLE DANDAcTRIPLE DANDAaMYANMAR LETTER KHAMTI GAdCA
dCHAdJAdJHAdNYAdTTAdTTHAdDDAdDDHAdDHAdNAdSAdHAdHHAdFAbMODIFIER LETTER KHAMTI REDUPLICATION
bLETTER KHAMTI XAdZAdRAbLOGOGRAM KHAMTI OAYdQNdHMbSYMBOL AITON EXCLAMATIONdONEdTWO
bLETTER AITON RAbSIGN PAO KAREN TONEcTAI LAING TONE-2eTONE-5bLETTER SHWE PALAUNG CHAeSHA
aTAI VIET LETTER LOW KOdHIGH KOdLOW KHOdHIGH KHOdLOW KHHOdHIGH KHHOdLOW GOdHIGH GOdLOW NGO
dHIGH NGOdLOW COdHIGH COdLOW CHOdHIGH CHOdLOW SOdHIGH SOdLOW NYOdHIGH NYOdLOW DOdHIGH DOdLOW TO
dHIGH TOdLOW THOdHIGH THOdLOW NOdHIGH NOdLOW BOdHIGH BOdLOW POdHIGH POdLOW PHOdHIGH PHOdLOW FO
dHIGH FOdLOW MOdHIGH MOdLOW YOdHIGH YOdLOW ROdHIGH ROdLOW LOdHIGH LOdLOW VOdHIGH VOdLOW HO
dHIGH HOdLOW OdHIGH OcMAI KANGcVOWEL AAdIdUEdUdEdOcMAI KHITcVOWEL IAdUEAdUAdAUEdAYdANdAM
cTONE MAI EKeNUENGeTHOeSONG"),
  (0xAADB, "aTAI VIET SYMBOL KONdNUENGdSAMdHO HOIdKOI KOIaMEETEI MAYEK LETTER EdOdCHAdNYAdTTA
dTTHAdDDAdDDHAdNNAdSHAdSSAcVOWEL SIGN IIeUUeAAIeAUeAAUcCHEIKHANcAHANG KHUDAMcANJI
cSYLLABLE REPETITION MARKcWORD REPETITION MARKcVOWEL SIGN VISARGAcVIRAMA"),
  (0xAB01, "aETHIOPIC SYLLABLE TTHUcTTHIcTTHAAcTTHEEcTTHEcTTHO"),
  (0xAB09, "aETHIOPIC SYLLABLE DDHUcDDHIcDDHAAcDDHEEcDDHEcDDHO"),
  (0xAB11, "aETHIOPIC SYLLABLE DZUcDZIcDZAAcDZEEcDZEcDZO"),
  (0xAB20, "aETHIOPIC SYLLABLE CCHHAcCCHHUcCCHHIcCCHHAAcCCHHEEcCCHHEcCCHHO"),
  (0xAB28, "aETHIOPIC SYLLABLE BBAcBBUcBBIcBBAAcBBEEcBBEcBBO"),
  (0xAB30, "aLATIN SMALL LETTER BARRED ALPHAdA REVERSED-SCHWAdBLACKLETTER EdBARRED E
dE WITH FLOURISHdLENIS FdSCRIPT G WITH CROSSED-TAILdL WITH INVERTED LAZY SfDOUBLE MIDDLE TILDE
fMIDDLE RINGdM WITH CROSSED-TAILdN WITH CROSSED-TAILdENG WITH CROSSED-TAILdBLACKLETTER O
fWITH STROKEdOPEN O WITH STROKEdINVERTED OEdTURNED OE WITH STROKEgHORIZONTAL STROKEeO OPEN-O
gWITH STROKEdSTIRRUP RbLETTER SMALL CAPITAL R WITH RIGHT LEGbSMALL LETTER R WITHOUT HANDLE
dDOUBLE RdR WITH CROSSED-TAILdDOUBLE R WITH CROSSED-TAILdSCRIPT RfWITH RINGdBASELINE ESH
dU WITH SHORT RIGHT LEGeBAR WITH SHORT RIGHT LEGdUIdTURNED UIdU WITH LEFT HOOKdCHI
eWITH LOW RIGHT RINGgLEFT SERIFdX WITH LOW RIGHT RINGfLONG LEFT LEGiAND LOW RIGHT RING
iWITH SERIFdY WITH SHORT RIGHT LEGaMODIFIER BREVE WITH INVERTED BREVEbLETTER SMALL HENG
dL WITH INVERTED LAZY SfMIDDLE TILDEdU WITH LEFT HOOKaLATIN SMALL LETTER SAKHA YATdIOTIFIED E
dOPEN OEdUOdINVERTED ALPHAaGREEK LETTER SMALL CAPITAL OMEGA
aLATIN SMALL LETTER DZ DIGRAPH WITH RETROFLEX HOOKdTS DIGRAPH WITH RETROFLEX HOOK
dTURNED R WITH MIDDLE TILDEaMODIFIER LETTER SMALL TURNED WcLEFT TACKcRIGHT TACK"),
  (0xAB70, "aCHEROKEE SMALL LETTER AdEdIdOdUdVdGAdKAdGEdGIdGOdGUdGVdHAdHEdHIdHOdHUdHVdLAdLEdLI
dLOdLUdLVdMAdMEdMIdMOdMUdNAdHNAdNAHdNEdNIdNOdNUdNVdQUAdQUEdQUIdQUOdQUUdQUVdSAdSdSEdSIdSOdSUdSV
dDAdTAdDEdTEdDIdTIdDOdDUdDVdDLAdTLAdTLEdTLIdTLOdTLUdTLVdTSAdTSEdTSIdTSOdTSUdTSVdWAdWEdWIdWOdWU
dWVdYAaMEETEI MAYEK LETTER KOKdSAMdLAIdMITdPAdNAdCHILdTILdKHOUdNGOUdTHOUdWAIdYANGdHUKdUNdIdPHAM
dATIYAdGOKdJHAMdRAIdBAdJILdDILdGHOUdDHOUdBHAMdKOK LONSUMdLAI LONSUMdMIT LONSUMdPA LONSUM
dNA LONSUMdTIL LONSUMdNGOU LONSUMdI LONSUMcVOWEL SIGN ONAPeINAPeANAPeYENAPeSOUNAPeUNAPeCHEINAP
eNUNGcCHEIKHEIcLUM IYEKcAPUN IYEK"),
  (0xABF0, "aMEETEI MAYEK DIGIT ZEROdONEdTWOdTHREEdFOURdFIVEdSIXdSEVENdEIGHTdNINE"),
  (0xD7B0, "aHANGUL JUNGSEONG O-YEOcO-O-IcYO-AcYO-AEcYO-EOcU-YEOcU-I-IcYU-AEcYU-OcEU-AcEU-EO
cEU-EcEU-OcI-YA-OcI-YAEcI-YEOcI-YEcI-O-IcI-YOcI-YUcI-IcARAEA-AcARAEA-E"),
  (0xD7CB, "aHANGUL JONGSEONG NIEUN-RIEULcNIEUN-CHIEUCHcSSANGTIKEUTcSSANGTIKEUT-PIEUP
cTIKEUT-PIEUPcTIKEUT-SIOScTIKEUT-SIOS-KIYEOKcTIKEUT-CIEUCcTIKEUT-CHIEUCHcTIKEUT-THIEUTH
cRIEUL-SSANGKIYEOKcRIEUL-KIYEOK-HIEUHcSSANGRIEUL-KHIEUKHcRIEUL-MIEUM-HIEUHcRIEUL-PIEUP-TIKEUT
cRIEUL-PIEUP-PHIEUPHcRIEUL-YESIEUNGcRIEUL-YEORINHIEUH-HIEUHcKAPYEOUNRIEULcMIEUM-NIEUN
cMIEUM-SSANGNIEUNcSSANGMIEUMcMIEUM-PIEUP-SIOScMIEUM-CIEUCcPIEUP-TIKEUTcPIEUP-RIEUL-PHIEUPH
cPIEUP-MIEUMcSSANGPIEUPcPIEUP-SIOS-TIKEUTcPIEUP-CIEUCcPIEUP-CHIEUCHcSIOS-MIEUM
cSIOS-KAPYEOUNPIEUPcSSANGSIOS-KIYEOKcSSANGSIOS-TIKEUTcSIOS-PANSIOScSIOS-CIEUCcSIOS-CHIEUCH
cSIOS-THIEUTHcSIOS-HIEUHcPANSIOS-PIEUPcPANSIOS-KAPYEOUNPIEUPcYESIEUNG-MIEUMcYESIEUNG-HIEUH
cCIEUC-PIEUPcCIEUC-SSANGPIEUPcSSANGCIEUCcPHIEUPH-SIOScPHIEUPH-THIEUTH"),
  (0xFB00, "aLATIN SMALL LIGATURE FFdFIdFLdFFIdFFLdLONG S TdST"),
  (0xFB13, "aARMENIAN SMALL LIGATURE MEN NOWeECHeINIdVEW NOWdMEN XEH"),
  (0xFB1D, "aHEBREW LETTER YOD WITH HIRIQbPOINT JUDEO-SPANISH VARIKA
bLIGATURE YIDDISH YOD YOD PATAHbLETTER ALTERNATIVE AYINcWIDE ALEFdDALETdHEdKAFdLAMEDdFINAL MEM
dRESHdTAVcALTERNATIVE PLUS SIGNcSHIN WITH SHIN DOTeSIN DOTeDAGESH AND SHIN DOTgSIN DOT
cALEF WITH PATAHeQAMATSeMAPIQcBET WITH DAGESHcGIMEL WITH DAGESHcDALET WITH DAGESHcHE WITH MAPIQ
cVAV WITH DAGESHcZAYIN WITH DAGESH"),
  (0xFB38, "aHEBREW LETTER TET WITH DAGESHcYOD WITH DAGESHcFINAL KAF WITH DAGESHcKAF WITH DAGESH
cLAMED WITH DAGESH"),
  (0xFB3E, "aHEBREW LETTER MEM WITH DAGESH"),
  (0xFB40, "aHEBREW LETTER NUN WITH DAGESHcSAMEKH WITH DAGESH"),
  (0xFB43, "aHEBREW LETTER FINAL PE WITH DAGESHcPE WITH DAGESH"),
  (0xFB46, "aHEBREW LETTER TSADI WITH DAGESHcQOF WITH DAGESHcRESH WITH DAGESHcSHIN WITH DAGESH
cTAV WITH DAGESHcVAV WITH HOLAMcBET WITH RAFEcKAF WITH RAFEcPE WITH RAFEbLIGATURE ALEF LAMED
aARABIC LETTER ALEF WASLA ISOLATED FORMeFINAL FORMcBEEH ISOLATED FORMdFINAL FORMdINITIAL FORM
dMEDIAL FORMcPEH ISOLATED FORMdFINAL FORMdINITIAL FORMdMEDIAL FORMcBEHEH ISOLATED FORM
dFINAL FORMdINITIAL FORMdMEDIAL FORMcTTEHEH ISOLATED FORMdFINAL FORMdINITIAL FORMdMEDIAL FORM
cTEHEH ISOLATED FORMdFINAL FORMdINITIAL FORMdMEDIAL FORMcTTEH ISOLATED FORMdFINAL FORM
dINITIAL FORMdMEDIAL FORMcVEH ISOLATED FORMdFINAL FORMdINITIAL FORMdMEDIAL FORM
cPEHEH ISOLATED FORMdFINAL FORMdINITIAL FORMdMEDIAL FORMcDYEH ISOLATED FORMdFINAL FORM
dINITIAL FORMdMEDIAL FORMcNYEH ISOLATED FORMdFINAL FORMdINITIAL FORMdMEDIAL FORM
cTCHEH ISOLATED FORMdFINAL FORMdINITIAL FORMdMEDIAL FORMcTCHEHEH ISOLATED FORMdFINAL FORM
dINITIAL FORMdMEDIAL FORMcDDAHAL ISOLATED FORMdFINAL FORMcDAHAL ISOLATED FORMdFINAL FORM
cDUL ISOLATED FORMdFINAL FORMcDDAL ISOLATED FORMdFINAL FORMcJEH ISOLATED FORMdFINAL FORM
cRREH ISOLATED FORMdFINAL FORMcKEHEH ISOLATED FORMdFINAL FORMdINITIAL FORMdMEDIAL FORM
cGAF ISOLATED FORMdFINAL FORMdINITIAL FORMdMEDIAL FORMcGUEH ISOLATED FORMdFINAL FORM
dINITIAL FORMdMEDIAL FORMcNGOEH ISOLATED FORMdFINAL FORMdINITIAL FORMdMEDIAL FORM
cNOON GHUNNA ISOLATED FORMeFINAL FORMcRNOON ISOLATED FORMdFINAL FORMdINITIAL FORMdMEDIAL FORM
cHEH WITH YEH ABOVE ISOLATED FORMgFINAL FORMdGOAL ISOLATED FORMeFINAL FORMeINITIAL FORM
eMEDIAL FORMdDOACHASHMEE ISOLATED FORMeFINAL FORMeINITIAL FORMeMEDIAL FORM
cYEH BARREE ISOLATED FORMeFINAL FORMeWITH HAMZA ABOVE ISOLATED FORMhFINAL FORMbSYMBOL DOT ABOVE
dBELOWcTWO DOTS ABOVEeBELOWcTHREE DOTS ABOVEeBELOWePOINTING DOWNWARDS ABOVEgBELOW
cFOUR DOTS ABOVEeBELOWcDOUBLE VERTICAL BAR BELOWcTWO DOTS VERTICALLY ABOVEfBELOWcRING
cSMALL TAH ABOVEeBELOWcWASLA ABOVE"),
  (0xFBD3, "aARABIC LETTER NG ISOLATED FORMdFINAL FORMdINITIAL FORMdMEDIAL FORMcU ISOLATED FORM
dFINAL FORMcOE ISOLATED FORMdFINAL FORMcYU ISOLATED FORMdFINAL FORM
cU WITH HAMZA ABOVE ISOLATED FORMcVE ISOLATED FORMdFINAL FORMcKIRGHIZ OE ISOLATED FORM
eFINAL FORMdYU ISOLATED FORMeFINAL FORMcE ISOLATED FORMdFINAL FORMdINITIAL FORMdMEDIAL FORM
cUIGHUR KAZAKH KIRGHIZ ALEF MAKSURA INITIAL FORMhMEDIAL FORM
bLIGATURE YEH WITH HAMZA ABOVE WITH ALEF ISOLATED FORMiFINAL FORMhAE ISOLATED FORMiFINAL FORM
hWAW ISOLATED FORMiFINAL FORMhU ISOLATED FORMiFINAL FORMhOE ISOLATED FORMiFINAL FORM
hYU ISOLATED FORMiFINAL FORMhE ISOLATED FORMiFINAL FORMiINITIAL FORM
cUIGHUR KIRGHIZ YEH WITH HAMZA ABOVE WITH ALEF MAKSURA ISOLATED FORMlFINAL FORMlINITIAL FORM
bLETTER FARSI YEH ISOLATED FORMeFINAL FORMeINITIAL FORMeMEDIAL FORM
bLIGATURE YEH WITH HAMZA ABOVE WITH JEEM ISOLATED FORMhHAH ISOLATED FORMhMEEM ISOLATED FORM
hALEF MAKSURA ISOLATED FORMhYEH ISOLATED FORMcBEH WITH JEEM ISOLATED FORMeHAH ISOLATED FORM
eKHAH ISOLATED FORMeMEEM ISOLATED FORMeALEF MAKSURA ISOLATED FORMeYEH ISOLATED FORM
cTEH WITH JEEM ISOLATED FORMeHAH ISOLATED FORMeKHAH ISOLATED FORMeMEEM ISOLATED FORM
eALEF MAKSURA ISOLATED FORMeYEH ISOLATED FORMcTHEH WITH JEEM ISOLATED FORMeMEEM ISOLATED FORM
eALEF MAKSURA ISOLATED FORMeYEH ISOLATED FORMcJEEM WITH HAH ISOLATED FORMeMEEM ISOLATED FORM
cHAH WITH JEEM ISOLATED FORMeMEEM ISOLATED FORMcKHAH WITH JEEM ISOLATED FORMeHAH ISOLATED FORM
eMEEM ISOLATED FORMcSEEN WITH JEEM ISOLATED FORMeHAH ISOLATED FORMeKHAH ISOLATED FORM
eMEEM ISOLATED FORMcSAD WITH HAH ISOLATED FORMeMEEM ISOLATED FORMcDAD WITH JEEM ISOLATED FORM
eHAH ISOLATED FORMeKHAH ISOLATED FORMeMEEM ISOLATED FORMcTAH WITH HAH ISOLATED FORM
eMEEM ISOLATED FORMcZAH WITH MEEM ISOLATED FORMcAIN WITH JEEM ISOLATED FORMeMEEM ISOLATED FORM
cGHAIN WITH JEEM ISOLATED FORMeMEEM ISOLATED FORMcFEH WITH JEEM ISOLATED FORMeHAH ISOLATED FORM
eKHAH ISOLATED FORMeMEEM ISOLATED FORMeALEF MAKSURA ISOLATED FORMeYEH ISOLATED FORM
cQAF WITH HAH ISOLATED FORMeMEEM ISOLATED FORMeALEF MAKSURA ISOLATED FORMeYEH ISOLATED FORM
cKAF WITH ALEF ISOLATED FORMeJEEM ISOLATED FORMeHAH ISOLATED FORMeKHAH ISOLATED FORM
eLAM ISOLATED FORMeMEEM ISOLATED FORMeALEF MAKSURA ISOLATED FORMeYEH ISOLATED FORM
cLAM WITH JEEM ISOLATED FORMeHAH ISOLATED FORMeKHAH ISOLATED FORMeMEEM ISOLATED FORM
eALEF MAKSURA ISOLATED FORMeYEH ISOLATED FORMcMEEM WITH JEEM ISOLATED FORMeHAH ISOLATED FORM
eKHAH ISOLATED FORMeMEEM ISOLATED FORMeALEF MAKSURA ISOLATED FORMeYEH ISOLATED FORM
cNOON WITH JEEM ISOLATED FORMeHAH ISOLATED FORMeKHAH ISOLATED FORMeMEEM ISOLATED FORM
eALEF MAKSURA ISOLATED FORMeYEH ISOLATED FORMcHEH WITH JEEM ISOLATED FORMeMEEM ISOLATED FORM
eALEF MAKSURA ISOLATED FORMeYEH ISOLATED FORMcYEH WITH JEEM ISOLATED FORMeHAH ISOLATED FORM
eKHAH ISOLATED FORMeMEEM ISOLATED FORMeALEF MAKSURA ISOLATED FORMeYEH ISOLATED FORM
cTHAL WITH SUPERSCRIPT ALEF ISOLATED FORMcREH WITH SUPERSCRIPT ALEF ISOLATED FORM
cALEF MAKSURA WITH SUPERSCRIPT ALEF ISOLATED FORMcSHADDA WITH DAMMATAN ISOLATED FORM
eKASRATAN ISOLATED FORMeFATHA ISOLATED FORMeDAMMA ISOLATED FORMeKASRA ISOLATED FORM
eSUPERSCRIPT ALEF ISOLATED FORMcYEH WITH HAMZA ABOVE WITH REH FINAL FORMhZAIN FINAL FORM
hMEEM FINAL FORMhNOON FINAL FORMhALEF MAKSURA FINAL FORMhYEH FINAL FORMcBEH WITH REH FINAL FORM
eZAIN FINAL FORMeMEEM FINAL FORMeNOON FINAL FORMeALEF MAKSURA FINAL FORMeYEH FINAL FORM
cTEH WITH REH FINAL FORMeZAIN FINAL FORMeMEEM FINAL FORMeNOON FINAL FORMeALEF MAKSURA FINAL FORM
eYEH FINAL FORMcTHEH WITH REH FINAL FORMeZAIN FINAL FORMeMEEM FINAL FORMeNOON FINAL FORM
eALEF MAKSURA FINAL FORMeYEH FINAL FORMcFEH WITH ALEF MAKSURA FINAL FORMeYEH FINAL FORM
cQAF WITH ALEF MAKSURA FINAL FORMeYEH FINAL FORMcKAF WITH ALEF FINAL FORMeLAM FINAL FORM
eMEEM FINAL FORMeALEF MAKSURA FINAL FORMeYEH FINAL FORMcLAM WITH MEEM FINAL FORM
eALEF MAKSURA FINAL FORMeYEH FINAL FORMcMEEM WITH ALEF FINAL FORMeMEEM FINAL FORM
cNOON WITH REH FINAL FORMeZAIN FINAL FORMeMEEM FINAL FORMeNOON FINAL FORM
eALEF MAKSURA FINAL FORMeYEH FINAL FORMcALEF MAKSURA WITH SUPERSCRIPT ALEF FINAL FORM
cYEH WITH REH FINAL FORMeZAIN FINAL FORMeMEEM FINAL FORMeNOON FINAL FORMeALEF MAKSURA FINAL FORM
eYEH FINAL FORMeHAMZA ABOVE WITH JEEM INITIAL FORMhHAH INITIAL FORMhKHAH INITIAL FORM
hMEEM INITIAL FORMhHEH INITIAL FORMcBEH WITH JEEM INITIAL FORMeHAH INITIAL FORM
eKHAH INITIAL FORMeMEEM INITIAL FORMeHEH INITIAL FORMcTEH WITH JEEM INITIAL FORM
eHAH INITIAL FORMeKHAH INITIAL FORMeMEEM INITIAL FORMeHEH INITIAL FORM
cTHEH WITH MEEM INITIAL FORMcJEEM WITH HAH INITIAL FORMeMEEM INITIAL FORM
cHAH WITH JEEM INITIAL FORMeMEEM INITIAL FORMcKHAH WITH JEEM INITIAL FORMeMEEM INITIAL FORM
cSEEN WITH JEEM INITIAL FORMeHAH INITIAL FORMeKHAH INITIAL FORMeMEEM INITIAL FORM
cSAD WITH HAH INITIAL FORMeKHAH INITIAL FORMeMEEM INITIAL FORMcDAD WITH JEEM INITIAL FORM
eHAH INITIAL FORMeKHAH INITIAL FORMeMEEM INITIAL FORMcTAH WITH HAH INITIAL FORM
cZAH WITH MEEM INITIAL FORMcAIN WITH JEEM INITIAL FORMeMEEM INITIAL FORM
cGHAIN WITH JEEM INITIAL FORMeMEEM INITIAL FORMcFEH WITH JEEM INITIAL FORMeHAH INITIAL FORM
eKHAH INITIAL FORMeMEEM INITIAL FORMcQAF WITH HAH INITIAL FORMeMEEM INITIAL FORM
cKAF WITH JEEM INITIAL FORMeHAH INITIAL FORMeKHAH INITIAL FORMeLAM INITIAL FORM
eMEEM INITIAL FORMcLAM WITH JEEM INITIAL FORMeHAH INITIAL FORMeKHAH INITIAL FORM
eMEEM INITIAL FORMeHEH INITIAL FORMcMEEM WITH JEEM INITIAL FORMeHAH INITIAL FORM
eKHAH INITIAL FORMeMEEM INITIAL FORMcNOON WITH JEEM INITIAL FORMeHAH INITIAL FORM
eKHAH INITIAL FORMeMEEM INITIAL FORMeHEH INITIAL FORMcHEH WITH JEEM INITIAL FORM
eMEEM INITIAL FORMeSUPERSCRIPT ALEF INITIAL FORMcYEH WITH JEEM INITIAL FORMeHAH INITIAL FORM
eKHAH INITIAL FORMeMEEM INITIAL FORMeHEH INITIAL FORMeHAMZA ABOVE WITH MEEM MEDIAL FORM
hHEH MEDIAL FORMcBEH WITH MEEM MEDIAL FORMeHEH MEDIAL FORMcTEH WITH MEEM MEDIAL FORM
eHEH MEDIAL FORMcTHEH WITH MEEM MEDIAL FORMeHEH MEDIAL FORMcSEEN WITH MEEM MEDIAL FORM
eHEH MEDIAL FORMcSHEEN WITH MEEM MEDIAL FORMeHEH MEDIAL FORMcKAF WITH LAM MEDIAL FORM
eMEEM MEDIAL FORMcLAM WITH MEEM MEDIAL FORMcNOON WITH MEEM MEDIAL FORMeHEH MEDIAL FORM
cYEH WITH MEEM MEDIAL FORMeHEH MEDIAL FORMcSHADDA WITH FATHA MEDIAL FORMeDAMMA MEDIAL FORM
eKASRA MEDIAL FORMcTAH WITH ALEF MAKSURA ISOLATED FORMeYEH ISOLATED FORM
cAIN WITH ALEF MAKSURA ISOLATED FORMeYEH ISOLATED FORMcGHAIN WITH ALEF MAKSURA ISOLATED FORM
eYEH ISOLATED FORMcSEEN WITH ALEF MAKSURA ISOLATED FORMeYEH ISOLATED FORM
cSHEEN WITH ALEF MAKSURA ISOLATED FORMeYEH ISOLATED FORMcHAH WITH ALEF MAKSURA ISOLATED FORM
eYEH ISOLATED FORMcJEEM WITH ALEF MAKSURA ISOLATED FORMeYEH ISOLATED FORM
cKHAH WITH ALEF MAKSURA ISOLATED FORMeYEH ISOLATED FORMcSAD WITH ALEF MAKSURA ISOLATED FORM
eYEH ISOLATED FORMcDAD WITH ALEF MAKSURA ISOLATED FORMeYEH ISOLATED FORM
cSHEEN WITH JEEM ISOLATED FORMeHAH ISOLATED FORMeKHAH ISOLATED FORMeMEEM ISOLATED FORM
eREH ISOLATED FORMcSEEN WITH REH ISOLATED FORMcSAD WITH REH ISOLATED FORM
cDAD WITH REH ISOLATED FORMcTAH WITH ALEF MAKSURA FINAL FORMeYEH FINAL FORM
cAIN WITH ALEF MAKSURA FINAL FORMeYEH FINAL FORMcGHAIN WITH ALEF MAKSURA FINAL FORM
eYEH FINAL FORMcSEEN WITH ALEF MAKSURA FINAL FORMeYEH FINAL FORM
cSHEEN WITH ALEF MAKSURA FINAL FORMeYEH FINAL FORMcHAH WITH ALEF MAKSURA FINAL FORM
eYEH FINAL FORMcJEEM WITH ALEF MAKSURA FINAL FORMeYEH FINAL FORM
cKHAH WITH ALEF MAKSURA FINAL FORMeYEH FINAL FORMcSAD WITH ALEF MAKSURA FINAL FORM
eYEH FINAL FORMcDAD WITH ALEF MAKSURA FINAL FORMeYEH FINAL FORMcSHEEN WITH JEEM FINAL FORM
eHAH FINAL FORMeKHAH FINAL FORMeMEEM FINAL FORMeREH FINAL FORMcSEEN WITH REH FINAL FORM
cSAD WITH REH FINAL FORMcDAD WITH REH FINAL FORMcSHEEN WITH JEEM INITIAL FORMeHAH INITIAL FORM
eKHAH INITIAL FORMeMEEM INITIAL FORMcSEEN WITH HEH INITIAL FORMcSHEEN WITH HEH INITIAL FORM
cTAH WITH MEEM INITIAL FORMcSEEN WITH JEEM MEDIAL FORMeHAH MEDIAL FORMeKHAH MEDIAL FORM
cSHEEN WITH JEEM MEDIAL FORMeHAH MEDIAL FORMeKHAH MEDIAL FORMcTAH WITH MEEM MEDIAL FORM
cZAH WITH MEEM MEDIAL FORMcALEF WITH FATHATAN FINAL FORMfISOLATED FORMaORNATE LEFT PARENTHESIS
bRIGHT PARENTHESISaARABIC LIGATURE RAHIMAHU ALLAAHcRADI ALLAAHU ANHeANHAAeANHUMeANHUMAAeANHUNNA
cSALLALLAAHU ALAYHI WA-AALIHcALAYHI AS-SALAAMcALAYHIM AS-SALAAMcALAYHIMAA AS-SALAAM
cALAYHI AS-SALAATU WAS-SALAAMcQUDDISA SIRRAHcSALLALLAHU ALAYHI WAAALIHEE WA-SALLAM
cALAYHAA AS-SALAAMcTABAARAKA WA-TAAALAAcRAHIMAHUM ALLAAHcTEH WITH JEEM WITH MEEM INITIAL FORM
eHAH WITH JEEM FINAL FORMhINITIAL FORMgMEEM INITIAL FORMeKHAH WITH MEEM INITIAL FORM
eMEEM WITH JEEM INITIAL FORMgHAH INITIAL FORMgKHAH INITIAL FORM
cJEEM WITH MEEM WITH HAH FINAL FORMhINITIAL FORMcHAH WITH MEEM WITH YEH FINAL FORM
gALEF MAKSURA FINAL FORMcSEEN WITH HAH WITH JEEM INITIAL FORMeJEEM WITH HAH INITIAL FORM
gALEF MAKSURA FINAL FORMeMEEM WITH HAH FINAL FORMhINITIAL FORMgJEEM INITIAL FORMgMEEM FINAL FORM
hINITIAL FORMcSAD WITH HAH WITH HAH FINAL FORMhINITIAL FORMeMEEM WITH MEEM FINAL FORM
cSHEEN WITH HAH WITH MEEM FINAL FORMhINITIAL FORMeJEEM WITH YEH FINAL FORM
eMEEM WITH KHAH FINAL FORMhINITIAL FORMgMEEM FINAL FORMhINITIAL FORM
cDAD WITH HAH WITH ALEF MAKSURA FINAL FORMeKHAH WITH MEEM FINAL FORMhINITIAL FORM
cTAH WITH MEEM WITH HAH FINAL FORMhINITIAL FORMgMEEM INITIAL FORMgYEH FINAL FORM
cAIN WITH JEEM WITH MEEM FINAL FORMeMEEM WITH MEEM FINAL FORMhINITIAL FORM
gALEF MAKSURA FINAL FORMcGHAIN WITH MEEM WITH MEEM FINAL FORMgYEH FINAL FORM
gALEF MAKSURA FINAL FORMcFEH WITH KHAH WITH MEEM FINAL FORMhINITIAL FORM
cQAF WITH MEEM WITH HAH FINAL FORMgMEEM FINAL FORMcLAM WITH HAH WITH MEEM FINAL FORM
gYEH FINAL FORMgALEF MAKSURA FINAL FORMeJEEM WITH JEEM INITIAL FORMhFINAL FORM
eKHAH WITH MEEM FINAL FORMhINITIAL FORMeMEEM WITH HAH FINAL FORMhINITIAL FORM
cMEEM WITH HAH WITH JEEM INITIAL FORMgMEEM INITIAL FORMgYEH FINAL FORM
eJEEM WITH HAH INITIAL FORMgMEEM INITIAL FORMeKHAH WITH JEEM INITIAL FORMgMEEM INITIAL FORM"),
  (0xFD92, "aARABIC LIGATURE MEEM WITH JEEM WITH KHAH INITIAL FORM
cHEH WITH MEEM WITH JEEM INITIAL FORMgMEEM INITIAL FORMcNOON WITH HAH WITH MEEM INITIAL FORM
gALEF MAKSURA FINAL FORMeJEEM WITH MEEM FINAL FORMhINITIAL FORMgALEF MAKSURA FINAL FORM
eMEEM WITH YEH FINAL FORMgALEF MAKSURA FINAL FORMcYEH WITH MEEM WITH MEEM FINAL FORM
hINITIAL FORMcBEH WITH KHAH WITH YEH FINAL FORMcTEH WITH JEEM WITH YEH FINAL FORM
gALEF MAKSURA FINAL FORMeKHAH WITH YEH FINAL FORMgALEF MAKSURA FINAL FORM
eMEEM WITH YEH FINAL FORMgALEF MAKSURA FINAL FORMcJEEM WITH MEEM WITH YEH FINAL FORM
eHAH WITH ALEF MAKSURA FINAL FORMeMEEM WITH ALEF MAKSURA FINAL FORM
cSEEN WITH KHAH WITH ALEF MAKSURA FINAL FORMcSAD WITH HAH WITH YEH FINAL FORM
cSHEEN WITH HAH WITH YEH FINAL FORMcDAD WITH HAH WITH YEH FINAL FORM
cLAM WITH JEEM WITH YEH FINAL FORMeMEEM WITH YEH FINAL FORMcYEH WITH HAH WITH YEH FINAL FORM
eJEEM WITH YEH FINAL FORMeMEEM WITH YEH FINAL FORMcMEEM WITH MEEM WITH YEH FINAL FORM
cQAF WITH MEEM WITH YEH FINAL FORMcNOON WITH HAH WITH YEH FINAL FORM
cQAF WITH MEEM WITH HAH INITIAL FORMcLAM WITH HAH WITH MEEM INITIAL FORM
cAIN WITH MEEM WITH YEH FINAL FORMcKAF WITH MEEM WITH YEH FINAL FORM
cNOON WITH JEEM WITH HAH INITIAL FORMcMEEM WITH KHAH WITH YEH FINAL FORM
cLAM WITH JEEM WITH MEEM INITIAL FORMcKAF WITH MEEM WITH MEEM FINAL FORM
cLAM WITH JEEM WITH MEEM FINAL FORMcNOON WITH JEEM WITH HAH FINAL FORM
cJEEM WITH HAH WITH YEH FINAL FORMcHAH WITH JEEM WITH YEH FINAL FORM
cMEEM WITH JEEM WITH YEH FINAL FORMcFEH WITH MEEM WITH YEH FINAL FORM
cBEH WITH HAH WITH YEH FINAL FORMcKAF WITH MEEM WITH MEEM INITIAL FORM
cAIN WITH JEEM WITH MEEM INITIAL FORMcSAD WITH MEEM WITH MEEM INITIAL FORM
cSEEN WITH KHAH WITH YEH FINAL FORMcNOON WITH JEEM WITH YEH FINAL FORM"),
  (0xFDCF, "aARABIC LIGATURE SALAAMUHU ALAYNAA"),
  (0xFDF0, "aARABIC LIGATURE SALLA USED AS KORANIC STOP SIGN ISOLATED FORM
cQALA USED AS KORANIC STOP SIGN ISOLATED FORMcALLAH ISOLATED FORMcAKBAR ISOLATED FORM
cMOHAMMAD ISOLATED FORMcSALAM ISOLATED FORMcRASOUL ISOLATED FORMcALAYHE ISOLATED FORM
cWASALLAM ISOLATED FORMcSALLA ISOLATED FORMcSALLALLAHOU ALAYHE WASALLAMcJALLAJALALOUHOU
aRIAL SIGNaARABIC LIGATURE BISMILLAH AR-RAHMAN AR-RAHEEMcSUBHAANAHU WA TAAALAAcAZZA WA JALL
aVARIATION SELECTOR-1bSELECTOR-2bSELECTOR-3bSELECTOR-4bSELECTOR-5bSELECTOR-6bSELECTOR-7
bSELECTOR-8bSELECTOR-9bSELECTOR-10bSELECTOR-11bSELECTOR-12bSELECTOR-13bSELECTOR-14bSELECTOR-15
bSELECTOR-16aPRESENTATION FORM FOR VERTICAL COMMAeIDEOGRAPHIC COMMAfFULL STOPeCOLONeSEMICOLON
eEXCLAMATION MARKeQUESTION MARKeLEFT WHITE LENTICULAR BRACKETeRIGHT WHITE LENTICULAR BRAKCET
eHORIZONTAL ELLIPSIS"),
  (0xFE20, "aCOMBINING LIGATURE LEFT HALFcRIGHT HALFbDOUBLE TILDE LEFT HALFdRIGHT HALF
bMACRON LEFT HALFcRIGHT HALFbCONJOINING MACRONbLIGATURE LEFT HALF BELOWcRIGHT HALF BELOW
bTILDE LEFT HALF BELOWcRIGHT HALF BELOWbMACRON LEFT HALF BELOWcRIGHT HALF BELOW
bCONJOINING MACRON BELOWbCYRILLIC TITLO LEFT HALFdRIGHT HALF
aPRESENTATION FORM FOR VERTICAL TWO DOT LEADEReEM DASHeEN DASHeLOW LINEeWAVY LOW LINE
eLEFT PARENTHESISeRIGHT PARENTHESISeLEFT CURLY BRACKETeRIGHT CURLY BRACKET
eLEFT TORTOISE SHELL BRACKETeRIGHT TORTOISE SHELL BRACKETeLEFT BLACK LENTICULAR BRACKET
eRIGHT BLACK LENTICULAR BRACKETeLEFT DOUBLE ANGLE BRACKETeRIGHT DOUBLE ANGLE BRACKET
eLEFT ANGLE BRACKETeRIGHT ANGLE BRACKETeLEFT CORNER BRACKETeRIGHT CORNER BRACKET
eLEFT WHITE CORNER BRACKETeRIGHT WHITE CORNER BRACKETaSESAME DOTaWHITE SESAME DOT
aPRESENTATION FORM FOR VERTICAL LEFT SQUARE BRACKETeRIGHT SQUARE BRACKETaDASHED OVERLINE
aCENTRELINE OVERLINEaWAVY OVERLINEaDOUBLE WAVY OVERLINEaDASHED LOW LINEaCENTRELINE LOW LINE
aWAVY LOW LINEaSMALL COMMAbIDEOGRAPHIC COMMAbFULL STOP"),
  (0xFE54, "aSMALL SEMICOLONbCOLONbQUESTION MARKbEXCLAMATION MARKbEM DASHbLEFT PARENTHESIS
bRIGHT PARENTHESISbLEFT CURLY BRACKETbRIGHT CURLY BRACKETbLEFT TORTOISE SHELL BRACKET
bRIGHT TORTOISE SHELL BRACKETbNUMBER SIGNbAMPERSANDbASTERISKbPLUS SIGNbHYPHEN-MINUS
bLESS-THAN SIGNbGREATER-THAN SIGNbEQUALS SIGN"),
  (0xFE68, "aSMALL REVERSE SOLIDUSbDOLLAR SIGNbPERCENT SIGNbCOMMERCIAL AT"),
  (0xFE70, "aARABIC FATHATAN ISOLATED FORMbTATWEEL WITH FATHATAN ABOVEbDAMMATAN ISOLATED FORM
bTAIL FRAGMENTbKASRATAN ISOLATED FORM"),
  (0xFE76, "aARABIC FATHA ISOLATED FORMcMEDIAL FORMbDAMMA ISOLATED FORMcMEDIAL FORM
bKASRA ISOLATED FORMcMEDIAL FORMbSHADDA ISOLATED FORMcMEDIAL FORMbSUKUN ISOLATED FORM
cMEDIAL FORMbLETTER HAMZA ISOLATED FORMcALEF WITH MADDA ABOVE ISOLATED FORMgFINAL FORM
eHAMZA ABOVE ISOLATED FORMgFINAL FORMcWAW WITH HAMZA ABOVE ISOLATED FORMgFINAL FORM
cALEF WITH HAMZA BELOW ISOLATED FORMgFINAL FORMcYEH WITH HAMZA ABOVE ISOLATED FORMgFINAL FORM
gINITIAL FORMgMEDIAL FORMcALEF ISOLATED FORMdFINAL FORMcBEH ISOLATED FORMdFINAL FORM
dINITIAL FORMdMEDIAL FORMcTEH MARBUTA ISOLATED FORMeFINAL FORMdISOLATED FORMdFINAL FORM
dINITIAL FORMdMEDIAL FORMcTHEH ISOLATED FORMdFINAL FORMdINITIAL FORMdMEDIAL FORM
cJEEM ISOLATED FORMdFINAL FORMdINITIAL FORMdMEDIAL FORMcHAH ISOLATED FORMdFINAL FORM
dINITIAL FORMdMEDIAL FORMcKHAH ISOLATED FORMdFINAL FORMdINITIAL FORMdMEDIAL FORM
cDAL ISOLATED FORMdFINAL FORMcTHAL ISOLATED FORMdFINAL FORMcREH ISOLATED FORMdFINAL FORM
cZAIN ISOLATED FORMdFINAL FORMcSEEN ISOLATED FORMdFINAL FORMdINITIAL FORMdMEDIAL FORM
cSHEEN ISOLATED FORMdFINAL FORMdINITIAL FORMdMEDIAL FORMcSAD ISOLATED FORMdFINAL FORM
dINITIAL FORMdMEDIAL FORMcDAD ISOLATED FORMdFINAL FORMdINITIAL FORMdMEDIAL FORM
cTAH ISOLATED FORMdFINAL FORMdINITIAL FORMdMEDIAL FORMcZAH ISOLATED FORMdFINAL FORMdINITIAL FORM
dMEDIAL FORMcAIN ISOLATED FORMdFINAL FORMdINITIAL FORMdMEDIAL FORMcGHAIN ISOLATED FORM
dFINAL FORMdINITIAL FORMdMEDIAL FORMcFEH ISOLATED FORMdFINAL FORMdINITIAL FORMdMEDIAL FORM
cQAF ISOLATED FORMdFINAL FORMdINITIAL FORMdMEDIAL FORMcKAF ISOLATED FORMdFINAL FORMdINITIAL FORM
dMEDIAL FORMcLAM ISOLATED FORMdFINAL FORMdINITIAL FORMdMEDIAL FORMcMEEM ISOLATED FORMdFINAL FORM
dINITIAL FORMdMEDIAL FORMcNOON ISOLATED FORMdFINAL FORMdINITIAL FORMdMEDIAL FORM
cHEH ISOLATED FORMdFINAL FORMdINITIAL FORMdMEDIAL FORMcWAW ISOLATED FORMdFINAL FORM
cALEF MAKSURA ISOLATED FORMeFINAL FORMcYEH ISOLATED FORMdFINAL FORMdINITIAL FORMdMEDIAL FORM
bLIGATURE LAM WITH ALEF WITH MADDA ABOVE ISOLATED FORMiFINAL FORMgHAMZA ABOVE ISOLATED FORM
iFINAL FORMhBELOW ISOLATED FORMiFINAL FORMfISOLATED FORMfFINAL FORM"),
  (0xFEFF, "aZERO WIDTH NO-BREAK SPACE"),
  (0xFF01, "aFULLWIDTH EXCLAMATION MARKbQUOTATION MARKbNUMBER SIGNbDOLLAR SIGNbPERCENT SIGN
bAMPERSANDbAPOSTROPHEbLEFT PARENTHESISbRIGHT PARENTHESISbASTERISKbPLUS SIGNbCOMMAbHYPHEN-MINUS
bFULL STOPbSOLIDUSbDIGIT ZEROcONEcTWOcTHREEcFOURcFIVEcSIXcSEVENcEIGHTcNINEbCOLONbSEMICOLON
bLESS-THAN SIGNbEQUALS SIGNbGREATER-THAN SIGNbQUESTION MARKbCOMMERCIAL ATbLATIN CAPITAL LETTER A
eBeCeDeEeFeGeHeIeJeKeLeMeNeOePeQeReSeTeUeVeWeXeYeZbLEFT SQUARE BRACKETbREVERSE SOLIDUS
bRIGHT SQUARE BRACKETbCIRCUMFLEX ACCENTbLOW LINEbGRAVE ACCENTbLATIN SMALL LETTER AeBeCeDeEeFeGeH
eIeJeKeLeMeNeOePeQeReSeTeUeVeWeXeYeZbLEFT CURLY BRACKETbVERTICAL LINEbRIGHT CURLY BRACKETbTILDE
bLEFT WHITE PARENTHESISbRIGHT WHITE PARENTHESISaHALFWIDTH IDEOGRAPHIC FULL STOP
bLEFT CORNER BRACKETbRIGHT CORNER BRACKETbIDEOGRAPHIC COMMAbKATAKANA MIDDLE DOTcLETTER WO
dSMALL AeIeUeEeOeYAeYUeYOeTUbKATAKANA-HIRAGANA PROLONGED SOUND MARKbKATAKANA LETTER AdIdUdEdOdKA
dKIdKUdKEdKOdSAdSIdSUdSEdSOdTAdTIdTUdTEdTOdNAdNIdNUdNEdNOdHAdHIdHUdHEdHOdMAdMIdMUdMEdMOdYAdYUdYO
dRAdRIdRUdREdROdWAdNcVOICED SOUND MARKcSEMI-VOICED SOUND MARKbHANGUL FILLERcLETTER KIYEOK
dSSANGKIYEOKdKIYEOK-SIOSdNIEUNdNIEUN-CIEUCdNIEUN-HIEUHdTIKEUTdSSANGTIKEUTdRIEULdRIEUL-KIYEOK
dRIEUL-MIEUMdRIEUL-PIEUPdRIEUL-SIOSdRIEUL-THIEUTHdRIEUL-PHIEUPHdRIEUL-HIEUHdMIEUMdPIEUP
dSSANGPIEUPdPIEUP-SIOSdSIOSdSSANGSIOSdIEUNGdCIEUCdSSANGCIEUCdCHIEUCHdKHIEUKHdTHIEUTHdPHIEUPH
dHIEUH"),
  (0xFFC2, "aHALFWIDTH HANGUL LETTER AdAEdYAdYAEdEOdE"),
  (0xFFCA, "aHALFWIDTH HANGUL LETTER YEOdYEdOdWAdWAEdOE"),
  (0xFFD2, "aHALFWIDTH HANGUL LETTER YOdUdWEOdWEdWIdYU"),
  (0xFFDA, "aHALFWIDTH HANGUL LETTER EUdYIdI"),
  (0xFFE0, "aFULLWIDTH CENT SIGNbPOUND SIGNbNOT SIGNbMACRONbBROKEN BARbYEN SIGNbWON SIGN"),
  (0xFFE8, "aHALFWIDTH FORMS LIGHT VERTICALbLEFTWARDS ARROWbUPWARDS ARROWbRIGHTWARDS ARROW
bDOWNWARDS ARROWbBLACK SQUAREbWHITE CIRCLE"),
  (0xFFF9, "aINTERLINEAR ANNOTATION ANCHORcSEPARATORcTERMINATORaOBJECT REPLACEMENT CHARACTER
aREPLACEMENT CHARACTER")]

end SourceLedger.CharacterName
