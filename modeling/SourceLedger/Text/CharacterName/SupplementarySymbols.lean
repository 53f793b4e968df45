/-!
# Names of supplementary symbols

The characters from U+1D000 on: notations, pictographs, emblems and variation selectors.
Each listing begins with the code point of its first character; how its names are written
is said where they are read.
-/

namespace SourceLedger.CharacterName

/-- The listings, in the order of their code points. -/
def supplementarySymbols : List (Nat × String) := [
  (0x1D000, "aBYZANTINE MUSICAL SYMBOL PSILIdDASEIAdPERISPOMENIdOXEIA EKFONITIKONeDIPLI
dVAREIA EKFONITIKONeDIPLIdKATHISTIdSYRMATIKIdPARAKLITIKIdYPOKRISISeDIPLIdKREMASTI
dAPESO EKFONITIKONdEXO EKFONITIKONdTELEIAdKENTIMATAdAPOSTROFOSeDIPLIdSYNEVMAdTHITA
dOLIGON ARCHAIONdGORGON ARCHAIONdPSILONdCHAMILONdVATHYdISON ARCHAIONdKENTIMA ARCHAION
dKENTIMATA ARCHAIONdSAXIMATAdPARICHONdSTAVROS APODEXIAdOXEIAI ARCHAIONdVAREIAI ARCHAION
dAPODERMA ARCHAIONdAPOTHEMAdKLASMAdREVMAdPIASMA ARCHAIONdTINAGMAdANATRICHISMAdSEISMA
dSYNAGMA ARCHAIONeMETA STAVROUdOYRANISMA ARCHAIONdTHEMAdLEMOIdDYOdTRIAdTESSERAdKRATIMATA
dAPESO EXO NEOdFTHORA ARCHAIONdIMIFTHORAdTROMIKON ARCHAIONdKATAVA TROMIKONdPELASTONdPSIFISTON
dKONTEVMAdCHOREVMA ARCHAIONdRAPISMAdPARAKALESMA ARCHAIONdPARAKLITIKI ARCHAIONdICHADINdNANA
dPETASMAdKONTEVMA ALLOdTROMIKON ALLOdSTRAGGISMATAdGRONTHISMATAdISON NEOdOLIGON NEOdOXEIA NEO
dPETASTIdKOUFISMAdPETASTOKOUFISMAdKRATIMOKOUFISMAdPELASTON NEOdKENTIMATA NEO ANOdKENTIMA NEO ANO
dYPSILIdAPOSTROFOS NEOdAPOSTROFOI SYNDESMOS NEOdYPORROIdKRATIMOYPORROONdELAFRONdCHAMILI
dMIKRON ISONdVAREIA NEOdPIASMA NEOdPSIFISTON NEOdOMALONdANTIKENOMAdLYGISMAdPARAKLITIKI NEO
dPARAKALESMA NEOdETERON PARAKALESMAdKYLISMAdANTIKENOKYLISMAdTROMIKON NEOdEKSTREPTONdSYNAGMA NEO
dSYRMAdCHOREVMA NEOdEPEGERMAdSEISMA NEOdXIRON KLASMAdTROMIKOPSIFISTONdPSIFISTOLYGISMA
dTROMIKOLYGISMAdTROMIKOPARAKALESMAdPSIFISTOPARAKALESMAdTROMIKOSYNAGMAdPSIFISTOSYNAGMA
dGORGOSYNTHETONdARGOSYNTHETONdETERON ARGOSYNTHETONdOYRANISMA NEOdTHEMATISMOS ESOeEXO
dTHEMA APLOUNdTHES KAI APOTHESdKATAVASMAdENDOFONONdYFEN KATOeANOdSTAVROSdKLASMA ANO
dDIPLI ARCHAIONdKRATIMA ARCHAIONeALLOeNEOdAPODERMA NEOdAPLIdDIPLIdTRIPLIdTETRAPLIdKORONIS
dLEIMMA ENOS CHRONOUeDYO CHRONONeTRION CHRONONeTESSARON CHRONONeIMISEOS CHRONOUdGORGON NEO ANO
ePARESTIGMENON ARISTERAfDEXIAdDIGORGONePARESTIGMENON ARISTERA KATOgANOfDEXIAdTRIGORGONdARGON
dIMIDIARGONdDIARGONdAGOGI POLI ARGIeARGOTERIeARGIeMETRIAeMESIeGORGIeGORGOTERIePOLI GORGI
dMARTYRIA PROTOS ICHOSeALLI PROTOS ICHOSeDEYTEROS ICHOSeALLI DEYTEROS ICHOSeTRITOS ICHOS
eTRIFONIASeTETARTOS ICHOSfLEGETOS ICHOSeLEGETOS ICHOSePLAGIOS ICHOSdISAKIA TELOUS ICHIMATOS
dAPOSTROFOI TELOUS ICHIMATOSdFANEROSIS TETRAFONIASeMONOFONIASeDIFONIASdMARTYRIA VARYS ICHOS
ePROTOVARYS ICHOSePLAGIOS TETARTOS ICHOSdGORTHMIKON N APLOUNfDIPLOUNdENARXIS KAI FTHORA VOU
dIMIFONONdIMIFTHORONdFTHORA ARCHAION DEYTEROU ICHOUeDIATONIKI PAfNANAeNAOS ICHOSeDIATONIKI DI
eSKLIRON DIATONON DIeDIATONIKI KEfZOfNI KATOgANOeMALAKON CHROMA DIFONIASgMONOFONIAS
dFHTORA SKLIRON CHROMA VASISdFTHORA SKLIRON CHROMA SYNAFIeNENANOdCHROA ZYGOSeKLITONeSPATHI
dFTHORA I YFESIS TETARTIMORIONeENARMONIOS ANTIFONIAdYFESIS TRITIMORIONdDIESIS TRITIMORION
eTETARTIMORIONeAPLI DYO DODEKATAeMONOGRAMMOS TESSERA DODEKATAeDIGRAMMOS EX DODEKATA
eTRIGRAMMOS OKTO DODEKATAdYFESIS APLI DYO DODEKATAeMONOGRAMMOS TESSERA DODEKATA
eDIGRAMMOS EX DODEKATAeTRIGRAMMOS OKTO DODEKATAdGENIKI DIESISeYFESISdDIASTOLI APLI MIKRIfMEGALI
eDIPLIeTHESEOSdSIMANSIS THESEOSfDISIMOUfTRISIMOUfTETRASIMOUeARSEOSfDISIMOUfTRISIMOUfTETRASIMOU
dDIGRAMMA GGdDIFTOGGOS OUdSTIGMAdARKTIKO PAeVOUeGAeDIeKEeZOeNIdKENTIMATA NEO MESO
dKENTIMA NEO MESOdKENTIMATA NEO KATOdKENTIMA NEO KATOdKLASMA KATOdGORGON NEO KATO"),
  (0x1D100, "aMUSICAL SYMBOL SINGLE BARLINEcDOUBLE BARLINEcFINAL BARLINEcREVERSE FINAL BARLINE
cDASHED BARLINEcSHORT BARLINEcLEFT REPEAT SIGNcRIGHT REPEAT SIGNcREPEAT DOTScDAL SEGNOcDA CAPO
cSEGNOcCODAcREPEATED FIGURE-1dFIGURE-2dFIGURE-3cFERMATAdBELOWcBREATH MARKcCAESURAcBRACEcBRACKET
cONE-LINE STAFFcTWO-LINE STAFFcTHREE-LINE STAFFcFOUR-LINE STAFFcFIVE-LINE STAFFcSIX-LINE STAFF
cSIX-STRING FRETBOARDcFOUR-STRING FRETBOARDcG CLEFeOTTAVA ALTAfBASSAcC CLEFcF CLEFeOTTAVA ALTA
fBASSAcDRUM CLEF-1dCLEF-2"),
  (0x1D129, "aMUSICAL SYMBOL MULTIPLE MEASURE RESTcDOUBLE SHARPdFLATcFLAT UPdDOWNcNATURAL UP
dDOWNcSHARP UPdDOWNcQUARTER TONE SHARPeFLATcCOMMON TIMEcCUT TIMEcOTTAVA ALTAdBASSA
cQUINDICESIMA ALTAdBASSAcMULTI RESTcWHOLE RESTcHALF RESTcQUARTER RESTcEIGHTH RESTcSIXTEENTH REST
cTHIRTY-SECOND RESTcSIXTY-FOURTH RESTcONE HUNDRED TWENTY-EIGHTH RESTcX NOTEHEADcPLUS NOTEHEAD
cCIRCLE X NOTEHEADcSQUARE NOTEHEAD WHITEeBLACKcTRIANGLE NOTEHEAD UP WHITEfBLACKeLEFT WHITEfBLACK
eRIGHT WHITEfBLACKeDOWN WHITEfBLACKeUP RIGHT WHITEgBLACKcMOON NOTEHEAD WHITEeBLACK
cTRIANGLE-ROUND NOTEHEAD DOWN WHITEfBLACKcPARENTHESIS NOTEHEADcVOID NOTEHEADcNOTEHEAD BLACK
cNULL NOTEHEADcCLUSTER NOTEHEAD WHITEeBLACKcBREVEcWHOLE NOTEcHALF NOTEcQUARTER NOTEcEIGHTH NOTE
cSIXTEENTH NOTEcTHIRTY-SECOND NOTEcSIXTY-FOURTH NOTEcONE HUNDRED TWENTY-EIGHTH NOTE
cCOMBINING STEMdSPRECHGESANG STEMdTREMOLO-1dTREMOLO-2dTREMOLO-3cFINGERED TREMOLO-1dTREMOLO-2
dTREMOLO-3cCOMBINING AUGMENTATION DOTdFLAG-1dFLAG-2dFLAG-3dFLAG-4dFLAG-5cBEGIN BEAMcEND BEAM
cBEGIN TIEcEND TIEcBEGIN SLURcEND SLURcBEGIN PHRASEcEND PHRASEcCOMBINING ACCENTdSTACCATOdTENUTO
dSTACCATISSIMOdMARCATOdMARCATO-STACCATOdACCENT-STACCATOdLOUREcARPEGGIATO UPdDOWNcCOMBINING DOIT
dRIPdFLIPdSMEARdBENDdDOUBLE TONGUEdTRIPLE TONGUEcRINFORZANDOcSUBITOcZcPIANOcMEZZOcFORTE
cCRESCENDOcDECRESCENDOcGRACE NOTE SLASHeNO SLASHcTRcTURNcINVERTED TURNcTURN SLASHdUP
cORNAMENT STROKE-1dSTROKE-2dSTROKE-3dSTROKE-4dSTROKE-5dSTROKE-6dSTROKE-7dSTROKE-8dSTROKE-9
dSTROKE-10dSTROKE-11cHAUPTSTIMMEcNEBENSTIMMEcEND OF STIMMEcDEGREE SLASHcCOMBINING DOWN BOW
dUP BOWdHARMONICdSNAP PIZZICATOcPEDAL MARKdUP MARKcHALF PEDAL MARKcGLISSANDO UPdDOWN
cWITH FINGERNAILScDAMPdALLcMAXIMAcLONGAcBREVIScSEMIBREVIS WHITEdBLACKcMINIMAdBLACK
cSEMIMINIMA WHITEdBLACKcFUSA WHITEdBLACKcLONGA PERFECTA RESTdIMPERFECTA RESTcBREVIS REST
cSEMIBREVIS RESTcMINIMA RESTcSEMIMINIMA RESTcTEMPUS PERFECTUM CUM PROLATIONE PERFECTAgIMPERFECTA
gPERFECTA DIMINUTION-1dIMPERFECTUM CUM PROLATIONE PERFECTAgIMPERFECTAhDIMINUTION-1hDIMINUTION-2
hDIMINUTION-3cCROIXcGREGORIAN C CLEFdF CLEFcSQUARE BcVIRGAcPODATUScCLIVIScSCANDICUScCLIMACUS
cTORCULUScPORRECTUSdFLEXUScSCANDICUS FLEXUScTORCULUS RESUPINUScPES SUBPUNCTIScKIEVAN C CLEF
dEND OF PIECEdFINAL NOTEdRECITATIVE MARKdWHOLE NOTEdHALF NOTEdQUARTER NOTE STEM DOWNgUP
dEIGHTH NOTE STEM DOWNgUPdFLAT SIGNcSORIcKORON"),
  (0x1D200, "aGREEK VOCAL NOTATION SYMBOL-1dSYMBOL-2dSYMBOL-3dSYMBOL-4dSYMBOL-5dSYMBOL-6
dSYMBOL-7dSYMBOL-8dSYMBOL-9dSYMBOL-10dSYMBOL-11dSYMBOL-12dSYMBOL-13dSYMBOL-14dSYMBOL-15
dSYMBOL-16dSYMBOL-17dSYMBOL-18dSYMBOL-19dSYMBOL-20dSYMBOL-21dSYMBOL-22dSYMBOL-23dSYMBOL-24
dSYMBOL-50dSYMBOL-51dSYMBOL-52dSYMBOL-53dSYMBOL-54bINSTRUMENTAL NOTATION SYMBOL-1dSYMBOL-2
dSYMBOL-4dSYMBOL-5dSYMBOL-7dSYMBOL-8dSYMBOL-11dSYMBOL-12dSYMBOL-13dSYMBOL-14dSYMBOL-17dSYMBOL-18
dSYMBOL-19dSYMBOL-23dSYMBOL-24dSYMBOL-25dSYMBOL-26dSYMBOL-27dSYMBOL-29dSYMBOL-30dSYMBOL-32
dSYMBOL-36dSYMBOL-37dSYMBOL-38dSYMBOL-39dSYMBOL-40dSYMBOL-42dSYMBOL-43dSYMBOL-45dSYMBOL-47
dSYMBOL-48dSYMBOL-49dSYMBOL-50dSYMBOL-51dSYMBOL-52dSYMBOL-53dSYMBOL-54
aCOMBINING GREEK MUSICAL TRISEMEdTETRASEMEdPENTASEMEaGREEK MUSICAL LEIMMA"),
  (0x1D2E0, "aMAYAN NUMERAL ZEROcONEcTWOcTHREEcFOURcFIVEcSIXcSEVENcEIGHTcNINEcTENcELEVENcTWELVE
cTHIRTEENcFOURTEENcFIFTEENcSIXTEENcSEVENTEENcEIGHTEENcNINETEEN"),
  (0x1D300, "aMONOGRAM FOR EARTHaDIGRAM FOR HEAVENLY EARTHcHUMAN EARTHcEARTHLY HEAVENdHUMAN
cEARTHaTETRAGRAM FOR CENTREcFULL CIRCLEcMIREDcBARRIERcKEEPING SMALLcCONTRARIETYcASCENT
cOPPOSITIONcBRANCHING OUTcDEFECTIVENESS OR DISTORTIONcDIVERGENCEcYOUTHFULNESScINCREASE
cPENETRATIONcREACHcCONTACTcHOLDING BACKcWAITINGcFOLLOWINGcADVANCEcRELEASEcRESISTANCEcEASEcJOY
cCONTENTIONcENDEAVOURcDUTIEScCHANGEcDECISIVENESScBOLD RESOLUTIONcPACKINGcLEGIONcCLOSENESS
cKINSHIPcGATHERINGcSTRENGTHcPURITYcFULLNESScRESIDENCEcLAW OR MODELcRESPONSEcGOING TO MEET
cENCOUNTERScSTOVEcGREATNESScENLARGEMENTcPATTERNcRITUALcFLIGHTcVASTNESS OR WASTINGcCONSTANCY
cMEASUREcETERNITYcUNITYcDIMINISHMENTcCLOSED MOUTHcGUARDEDNESScGATHERING INcMASSINGcACCUMULATION
cEMBELLISHMENTcDOUBTcWATCHcSINKINGcINNERcDEPARTUREcDARKENINGcDIMMINGcEXHAUSTIONcSEVERANCE
cSTOPPAGEcHARDNESScCOMPLETIONcCLOSUREcFAILUREcAGGRAVATIONcCOMPLIANCEcON THE VERGEcDIFFICULTIES
cLABOURINGcFOSTERING"),
  (0x1D360, "aCOUNTING ROD UNIT DIGIT ONEeTWOeTHREEeFOUReFIVEeSIXeSEVENeEIGHTeNINE
cTENS DIGIT ONEeTWOeTHREEeFOUReFIVEeSIXeSEVENeEIGHTeNINEaIDEOGRAPHIC TALLY MARK ONEdTWOdTHREE
dFOURdFIVEaTALLY MARK ONEcFIVE"),
  (0x1D400, "aMATHEMATICAL BOLD CAPITAL AdBdCdDdEdFdGdHdIdJdKdLdMdNdOdPdQdRdSdTdUdVdWdXdYdZ
cSMALL AdBdCdDdEdFdGdHdIdJdKdLdMdNdOdPdQdRdSdTdUdVdWdXdYdZbITALIC CAPITAL AdBdCdDdEdFdGdHdIdJdK
dLdMdNdOdPdQdRdSdTdUdVdWdXdYdZcSMALL AdBdCdDdEdFdG"),
  (0x1D456, "aMATHEMATICAL ITALIC SMALL IdJdKdLdMdNdOdPdQdRdSdTdUdVdWdXdYdZ
bBOLD ITALIC CAPITAL AeBeCeDeEeFeGeHeIeJeKeLeMeNeOePeQeReSeTeUeVeWeXeYeZdSMALL AeBeCeDeEeFeGeHeI
eJeKeLeMeNeOePeQeReSeTeUeVeWeXeYeZbSCRIPT CAPITAL A"),
  (0x1D49E, "aMATHEMATICAL SCRIPT CAPITAL CdD"),
  (0x1D4A2, "aMATHEMATICAL SCRIPT CAPITAL G"),
  (0x1D4A5, "aMATHEMATICAL SCRIPT CAPITAL JdK"),
  (0x1D4A9, "aMATHEMATICAL SCRIPT CAPITAL NdOdPdQ"),
  (0x1D4AE, "aMATHEMATICAL SCRIPT CAPITAL SdTdUdVdWdXdYdZcSMALL AdBdCdD"),
  (0x1D4BB, "aMATHEMATICAL SCRIPT SMALL F"),
  (0x1D4BD, "aMATHEMATICAL SCRIPT SMALL HdIdJdKdLdMdN"),
  (0x1D4C5, "aMATHEMATICAL SCRIPT SMALL PdQdRdSdTdUdVdWdXdYdZbBOLD SCRIPT CAPITAL AeBeCeDeEeFeG
eHeIeJeKeLeMeNeOePeQeReSeTeUeVeWeXeYeZdSMALL AeBeCeDeEeFeGeHeIeJeKeLeMeNeOePeQeReSeTeUeVeWeXeYeZ
bFRAKTUR CAPITAL AdB"),
  (0x1D507, "aMATHEMATICAL FRAKTUR CAPITAL DdEdFdG"),
  (0x1D50D, "aMATHEMATICAL FRAKTUR CAPITAL JdKdLdMdNdOdPdQ"),
  (0x1D516, "aMATHEMATICAL FRAKTUR CAPITAL SdTdUdVdWdXdY"),
  (0x1D51E, "aMATHEMATICAL FRAKTUR SMALL AdBdCdDdEdFdGdHdIdJdKdLdMdNdOdPdQdRdSdTdUdVdWdXdYdZ
bDOUBLE-STRUCK CAPITAL AdB"),
  (0x1D53B, "aMATHEMATICAL DOUBLE-STRUCK CAPITAL DdEdFdG"),
  (0x1D540, "aMATHEMATICAL DOUBLE-STRUCK CAPITAL IdJdKdLdM"),
  (0x1D546, "aMATHEMATICAL DOUBLE-STRUCK CAPITAL O"),
  (0x1D54A, "aMATHEMATICAL DOUBLE-STRUCK CAPITAL SdTdUdVdWdXdY"),
  (0x1D552, "aMATHEMATICAL DOUBLE-STRUCK SMALL AdBdCdDdEdFdGdHdIdJdKdLdMdNdOdPdQdRdSdTdUdVdWdXdY
dZbBOLD FRAKTUR CAPITAL AeBeCeDeEeFeGeHeIeJeKeLeMeNeOePeQeReSeTeUeVeWeXeYeZdSMALL AeBeCeDeEeFeG
eHeIeJeKeLeMeNeOePeQeReSeTeUeVeWeXeYeZbSANS-SERIF CAPITAL AdBdCdDdEdFdGdHdIdJdKdLdMdNdOdPdQdRdS
dTdUdVdWdXdYdZcSMALL AdBdCdDdEdFdGdHdIdJdKdLdMdNdOdPdQdRdSdTdUdVdWdXdYdZcBOLD CAPITAL AeBeCeDeE
eFeGeHeIeJeKeLeMeNeOePeQeReSeTeUeVeWeXeYeZdSMALL AeBeCeDeEeFeGeHeIeJeKeLeMeNeOePeQeReSeTeUeVeWeX
eYeZcITALIC CAPITAL AeBeCeDeEeFeGeHeIeJeKeLeMeNeOePeQeReSeTeUeVeWeXeYeZdSMALL AeBeCeDeEeFeGeHeI
eJeKeLeMeNeOePeQeReSeTeUeVeWeXeYeZcBOLD ITALIC CAPITAL AfBfCfDfEfFfGfHfIfJfKfLfMfNfOfPfQfRfSfTfU
fVfWfXfYfZeSMALL AfBfCfDfEfFfGfHfIfJfKfLfMfNfOfPfQfRfSfTfUfVfWfXfYfZbMONOSPACE CAPITAL AdBdCdDdE
dFdGdHdIdJdKdLdMdNdOdPdQdRdSdTdUdVdWdXdYdZcSMALL AdBdCdDdEdFdGdHdIdJdKdLdMdNdOdPdQdRdSdTdUdVdWdX
dYdZbITALIC SMALL DOTLESS IeJ"),
  (0x1D6A8, "aMATHEMATICAL BOLD CAPITAL ALPHAdBETAdGAMMAdDELTAdEPSILONdZETAdETAdTHETAdIOTAdKAPPA
dLAMDAdMUdNUdXIdOMICRONdPIdRHOdTHETA SYMBOLdSIGMAdTAUdUPSILONdPHIdCHIdPSIdOMEGAcNABLA
cSMALL ALPHAdBETAdGAMMAdDELTAdEPSILONdZETAdETAdTHETAdIOTAdKAPPAdLAMDAdMUdNUdXIdOMICRONdPIdRHO
dFINAL SIGMAdSIGMAdTAUdUPSILONdPHIdCHIdPSIdOMEGAcPARTIAL DIFFERENTIALcEPSILON SYMBOL
cTHETA SYMBOLcKAPPA SYMBOLcPHI SYMBOLcRHO SYMBOLcPI SYMBOLbITALIC CAPITAL ALPHAdBETAdGAMMAdDELTA
dEPSILONdZETAdETAdTHETAdIOTAdKAPPAdLAMDAdMUdNUdXIdOMICRONdPIdRHOdTHETA SYMBOLdSIGMAdTAUdUPSILON
dPHIdCHIdPSIdOMEGAcNABLAcSMALL ALPHAdBETAdGAMMAdDELTAdEPSILONdZETAdETAdTHETAdIOTAdKAPPAdLAMDAdMU
dNUdXIdOMICRONdPIdRHOdFINAL SIGMAdSIGMAdTAUdUPSILONdPHIdCHIdPSIdOMEGAcPARTIAL DIFFERENTIAL
cEPSILON SYMBOLcTHETA SYMBOLcKAPPA SYMBOLcPHI SYMBOLcRHO SYMBOLcPI SYMBOL
bBOLD ITALIC CAPITAL ALPHAeBETAeGAMMAeDELTAeEPSILONeZETAeETAeTHETAeIOTAeKAPPAeLAMDAeMUeNUeXI
eOMICRONePIeRHOeTHETA SYMBOLeSIGMAeTAUeUPSILONePHIeCHIePSIeOMEGAdNABLAdSMALL ALPHAeBETAeGAMMA
eDELTAeEPSILONeZETAeETAeTHETAeIOTAeKAPPAeLAMDAeMUeNUeXIeOMICRONePIeRHOeFINAL SIGMAeSIGMAeTAU
eUPSILONePHIeCHIePSIeOMEGAdPARTIAL DIFFERENTIALdEPSILON SYMBOLdTHETA SYMBOLdKAPPA SYMBOL
dPHI SYMBOLdRHO SYMBOLdPI SYMBOLbSANS-SERIF BOLD CAPITAL ALPHAeBETAeGAMMAeDELTAeEPSILONeZETAeETA
eTHETAeIOTAeKAPPAeLAMDAeMUeNUeXIeOMICRONePIeRHOeTHETA SYMBOLeSIGMAeTAUeUPSILONePHIeCHIePSIeOMEGA
dNABLAdSMALL ALPHAeBETAeGAMMAeDELTAeEPSILONeZETAeETAeTHETAeIOTAeKAPPAeLAMDAeMUeNUeXIeOMICRONePI
eRHOeFINAL SIGMAeSIGMAeTAUeUPSILONePHIeCHIePSIeOMEGAdPARTIAL DIFFERENTIALdEPSILON SYMBOL
dTHETA SYMBOLdKAPPA SYMBOLdPHI SYMBOLdRHO SYMBOLdPI SYMBOLdITALIC CAPITAL ALPHAfBETAfGAMMAfDELTA
fEPSILONfZETAfETAfTHETAfIOTAfKAPPAfLAMDAfMUfNUfXIfOMICRONfPIfRHOfTHETA SYMBOLfSIGMAfTAUfUPSILON
fPHIfCHIfPSIfOMEGAeNABLAeSMALL ALPHAfBETAfGAMMAfDELTAfEPSILONfZETAfETAfTHETAfIOTAfKAPPAfLAMDAfMU
fNUfXIfOMICRONfPIfRHOfFINAL SIGMAfSIGMAfTAUfUPSILONfPHIfCHIfPSIfOMEGAePARTIAL DIFFERENTIAL
eEPSILON SYMBOLeTHETA SYMBOLeKAPPA SYMBOLePHI SYMBOLeRHO SYMBOLePI SYMBOLbBOLD CAPITAL DIGAMMA
cSMALL DIGAMMA"),
  (0x1D7CE, "aMATHEMATICAL BOLD DIGIT ZEROdONEdTWOdTHREEdFOURdFIVEdSIXdSEVENdEIGHTdNINE
bDOUBLE-STRUCK DIGIT ZEROdONEdTWOdTHREEdFOURdFIVEdSIXdSEVENdEIGHTdNINEbSANS-SERIF DIGIT ZEROdONE
dTWOdTHREEdFOURdFIVEdSIXdSEVENdEIGHTdNINEcBOLD DIGIT ZEROeONEeTWOeTHREEeFOUReFIVEeSIXeSEVEN
eEIGHTeNINEbMONOSPACE DIGIT ZEROdONEdTWOdTHREEdFOURdFIVEdSIXdSEVENdEIGHTdNINE
aSIGNWRITING HAND-FIST INDEXbHAND-CIRCLE INDEXbHAND-CUP INDEXbHAND-OVAL INDEXbHAND-HINGE INDEX
bHAND-ANGLE INDEXbHAND-FIST INDEX BENTbHAND-CIRCLE INDEX BENTbHAND-FIST THUMB UNDER INDEX BENT
cINDEX RAISED KNUCKLEdCUPPEDdHINGEDeLOWbHAND-CIRCLE INDEX HINGEbHAND-FIST INDEX MIDDLE
bHAND-CIRCLE INDEX MIDDLEbHAND-FIST INDEX MIDDLE BENTeRAISED KNUCKLESeHINGEDdUP MIDDLE HINGED
dHINGED MIDDLE UPdMIDDLE CONJOINEDfINDEX BENTfMIDDLE BENTfCUPPEDfHINGEDeCROSSED
bHAND-CIRCLE INDEX MIDDLE CROSSEDbHAND-FIST MIDDLE BENT OVER INDEXcINDEX BENT OVER MIDDLE
dMIDDLE THUMBbHAND-CIRCLE INDEX MIDDLE THUMBbHAND-FIST INDEX MIDDLE STRAIGHT THUMB BENT
eBENT THUMB STRAIGHTeTHUMB BENTeHINGED SPREAD THUMB SIDEdUP MIDDLE HINGED THUMB SIDEhCONJOINED
dHINGED MIDDLE UP THUMB SIDEdMIDDLE UP SPREAD THUMB FORWARDeTHUMB CUPPEDfCIRCLEDfHOOKEDfHINGED
cTHUMB BETWEEN INDEX MIDDLE STRAIGHTcINDEX MIDDLE CONJOINED THUMB SIDEhCONJOINEDhBENT
cMIDDLE THUMB HOOKED INDEX UPcINDEX THUMB HOOKED MIDDLE UPdMIDDLE CONJOINED HINGED THUMB SIDE
eCROSSED THUMB SIDEeCONJOINED THUMB FORWARDfCUPPED THUMB FORWARDcMIDDLE THUMB CUPPED INDEX UP
cINDEX THUMB CUPPED MIDDLE UPcMIDDLE THUMB CIRCLED INDEX UPgHINGED
cINDEX THUMB ANGLED OUT MIDDLE UPfIN MIDDLE UPeCIRCLED MIDDLE UPdMIDDLE THUMB CONJOINED HINGED
fANGLED OUTgcMIDDLE THUMB ANGLED OUT INDEX UPhCROSSEDfINDEX UPcINDEX THUMB HOOKED MIDDLE HINGED
bHAND-FLAT FOUR FINGERSeBENTeHINGEDeCONJOINEDfSPLITbHAND-CLAW FOUR FINGERS CONJOINED
bHAND-FIST FOUR FINGERS CONJOINED BENTbHAND-HINGE FOUR FINGERS CONJOINED
bHAND-FLAT FIVE FINGERS SPREADcHEEL FIVE FINGERS SPREADcFIVE FINGERS SPREAD FOUR BENT
cHEEL FIVE FINGERS SPREAD FOUR BENTcFIVE FINGERS SPREAD BENTcHEEL FIVE FINGERS SPREAD BENT
cFIVE FINGERS SPREAD THUMB FORWARDbHAND-CUP FIVE FINGERS SPREADfOPEN
bHAND-HINGE FIVE FINGERS SPREAD OPENbHAND-OVAL FIVE FINGERS SPREAD
bHAND-FLAT FIVE FINGERS SPREAD HINGEDgTHUMB SIDEgNO THUMBccBETWEEN PALM FACINGScHEELcTHUMB SIDE
cHEEL THUMB SIDEcTHUMB BENTdFORWARDcSPLIT INDEX THUMB SIDEdCENTREeTHUMB SIDEgBENTdLITTLE
bHAND-CLAWcTHUMB SIDEcNO THUMBcTHUMB FORWARDbHAND-HOOK CURLICUEcbHAND-CUP OPENccOPEN THUMB SIDE
cTHUMB SIDEcOPEN NO THUMBcNO THUMBcOPEN THUMB FORWARDcTHUMB FORWARDbHAND-CURLICUE OPENc
bHAND-CIRCLEbHAND-OVALcTHUMB SIDEcNO THUMBcTHUMB FORWARDbHAND-HINGE OPENdTHUMB FORWARDccSMALL
cOPEN THUMB SIDEcTHUMB SIDEcOPEN NO THUMBcNO THUMBcTHUMB SIDE TOUCHING INDEXdBETWEEN MIDDLE RING
bHAND-ANGLEbHAND-FIST INDEX MIDDLE RINGbHAND-CIRCLE INDEX MIDDLE RING
bHAND-HINGE INDEX MIDDLE RINGbHAND-ANGLE INDEX MIDDLE RINGbHAND-HINGE LITTLE
bHAND-FIST INDEX MIDDLE RING BENTfCONJOINEDbHAND-HINGE INDEX MIDDLE RING CONJOINED
bHAND-FIST LITTLE DOWNeRIPPLE STRAIGHTfCURVEDeOTHERS CIRCLEDdUPcTHUMB UNDER LITTLE UP
bHAND-CIRCLE LITTLE UPbHAND-OVAL LITTLE UPbHAND-ANGLE LITTLE UPbHAND-FIST LITTLE RAISED KNUCKLE
dBENTdTOUCHES THUMBdTHUMBbHAND-HINGE LITTLE THUMBbHAND-FIST LITTLE INDEX THUMB
bHAND-HINGE LITTLE INDEX THUMBbHAND-ANGLE LITTLE INDEX THUMB INDEX THUMB OUTh
bHAND-FIST LITTLE INDEXbHAND-CIRCLE LITTLE INDEXbHAND-HINGE LITTLE INDEXbHAND-ANGLE LITTLE INDEX
bHAND-FIST INDEX MIDDLE LITTLEbHAND-CIRCLE INDEX MIDDLE LITTLEbHAND-HINGE INDEX MIDDLE LITTLE
cRINGbHAND-ANGLE INDEX MIDDLE LITTLEbHAND-FIST INDEX MIDDLE CROSS LITTLE
bHAND-CIRCLE INDEX MIDDLE CROSS LITTLEbHAND-FIST RING DOWN
bHAND-HINGE RING DOWN INDEX THUMB HOOK MIDDLEbHAND-ANGLE RING DOWN MIDDLE THUMB INDEX CROSS
bHAND-FIST RING UPdRAISED KNUCKLEdLITTLEbHAND-CIRCLE RING LITTLEbHAND-OVAL RING LITTLE
bHAND-ANGLE RING LITTLEbHAND-FIST RING MIDDLEeCONJOINEDeRAISED KNUCKLESdINDEXdTHUMB
bHAND-HOOK RING THUMBbHAND-FIST INDEX RING LITTLEbHAND-CIRCLE INDEX RING LITTLE
bHAND-CURLICUE INDEX RING LITTLE ONbHAND-HOOK INDEX RING LITTLE OUTfINfUNDER
bHAND-CUP INDEX RING LITTLEbHAND-HINGE INDEX RING LITTLEbHAND-ANGLE INDEX RING LITTLE OUTf
bHAND-FIST MIDDLE DOWNbHAND-HINGE MIDDLEbHAND-FIST MIDDLE UPbHAND-CIRCLE MIDDLE UP
bHAND-FIST MIDDLE RAISED KNUCKLEdUP THUMB SIDEbHAND-HOOK MIDDLE THUMB
bHAND-FIST MIDDLE THUMB LITTLEdLITTLEdRING LITTLEbHAND-CIRCLE MIDDLE RING LITTLE
bHAND-CURLICUE MIDDLE RING LITTLE ONbHAND-CUP MIDDLE RING LITTLEbHAND-HINGE MIDDLE RING LITTLE
bHAND-ANGLE MIDDLE RING LITTLE OUTfINfbHAND-CIRCLE MIDDLE RING LITTLE BENT
bHAND-CLAW MIDDLE RING LITTLE CONJOINEDgSIDEbHAND-HOOK MIDDLE RING LITTLE CONJOINED OUTgINg
bHAND-HINGE INDEX HINGEDbHAND-FIST INDEX THUMB SIDEbHAND-HINGE INDEX THUMB SIDE
bHAND-FIST INDEX THUMB SIDE THUMB DIAGONALgCONJOINEDgBENTfINDEX BENTfBOTH BENTfINDEX HINGE
eFORWARD INDEX STRAIGHTgBENTeHOOKeCURLICUEeCURVE THUMB INSIDE
bHAND-CLAW INDEX THUMB CURVE THUMB INSIDEbHAND-FIST INDEX THUMB CURVE THUMB UNDEReCIRCLE
bHAND-CUP INDEX THUMBeOPENbHAND-HINGE INDEX THUMB OPENeLARGEeeSMALLbHAND-ANGLE INDEX THUMB OUT
eINebHAND-FIST THUMBdHEELdSIDE DIAGONALeCONJOINEDeBENTdFORWARDdBETWEEN INDEX MIDDLEeMIDDLE RING
eRING LITTLEdUNDER TWO FINGERSdOVER TWO FINGERSdUNDER THREE FINGERSeFOUR FINGERS
dOVER FOUR RAISED KNUCKLESccHEELbTOUCH SINGLEcMULTIPLEcBETWEENbGRASP SINGLEcMULTIPLEcBETWEEN
bSTRIKE SINGLEcMULTIPLEcBETWEENbBRUSH SINGLEcMULTIPLEcBETWEENbRUB SINGLEcMULTIPLEcBETWEEN
bSURFACE SYMBOLScBETWEENbSQUEEZE LARGE SINGLEcSMALL SINGLEcLARGE MULTIPLEcSMALL MULTIPLE
cSEQUENTIALbFLICK LARGE SINGLEcSMALL SINGLEcLARGE MULTIPLEcSMALL MULTIPLEcSEQUENTIAL
bSQUEEZE FLICK ALTERNATINGbMOVEMENT-HINGE UP DOWN LARGEeSMALLdSEQUENTIALcDOWN SEQUENTIAL
cUP DOWN ALTERNATING LARGEfSMALLcSIDE TO SIDE SCISSORSbMOVEMENT-WALLPLANE FINGER CONTACT
bMOVEMENT-FLOORPLANE FINGER CONTACTbMOVEMENT-WALLPLANE SINGLE STRAIGHT SMALLeMEDIUMeLARGE
eLARGESTdWRIST FLEXcDOUBLE STRAIGHTdWRIST FLEXdALTERNATINGeWRIST FLEXcCROSS
cTRIPLE STRAIGHT MOVEMENTdWRIST FLEXdALTERNATINGeWRIST FLEXcBEND SMALLdMEDIUMdLARGEcCORNER SMALL
dMEDIUMdLARGEdROTATIONcCHECK SMALLdMEDIUMdLARGEcBOX SMALLdMEDIUMdLARGEcZIGZAG SMALLdMEDIUMdLARGE
cPEAKS SMALLdMEDIUMdLARGEbTRAVEL-WALLPLANE ROTATION-WALLPLANE SINGLEdDOUBLEdALTERNATING
cROTATION-FLOORPLANE SINGLEdDOUBLEdALTERNATINGcSHAKINGcARM SPIRAL SINGLEeDOUBLEeTRIPLE
bMOVEMENT-DIAGONAL AWAY SMALLdMEDIUMdLARGEdLARGESTcTOWARDS SMALLdMEDIUMdLARGEdLARGEST
cBETWEEN AWAY SMALLeMEDIUMeLARGEeLARGESTdTOWARDS SMALLeMEDIUMeLARGEeLARGEST
bMOVEMENT-FLOORPLANE SINGLE STRAIGHT SMALLeMEDIUMeLARGEeLARGESTdWRIST FLEXcDOUBLE STRAIGHT
dWRIST FLEXdALTERNATINGeWRIST FLEXcCROSScTRIPLE STRAIGHT MOVEMENTdWRIST FLEX
dALTERNATING MOVEMENTeWRIST FLEXcBENDcCORNER SMALLdMEDIUMdLARGEcCHECKcBOX SMALLdMEDIUMdLARGE
cZIGZAG SMALLdMEDIUMdLARGEcPEAKS SMALLdMEDIUMdLARGEbTRAVEL-FLOORPLANE ROTATION-FLOORPLANE SINGLE
dDOUBLEdALTERNATINGcROTATION-WALLPLANE SINGLEdDOUBLEdALTERNATINGcSHAKING
bMOVEMENT-WALLPLANE CURVE QUARTER SMALLeMEDIUMeLARGEeLARGESTdHALF-CIRCLE SMALLeMEDIUMeLARGE
eLARGESTdTHREE-QUARTER CIRCLE SMALLfMEDIUMcHUMP SMALLdMEDIUMdLARGEcLOOP SMALLdMEDIUMdLARGE
dSMALL DOUBLEcWAVE CURVE DOUBLE SMALLfMEDIUMfLARGEeTRIPLE SMALLfMEDIUMfLARGEcCURVE THEN STRAIGHT
cCURVED CROSS SMALLeMEDIUMbROTATION-WALLPLANE SINGLEcDOUBLEcALTERNATEbMOVEMENT-WALLPLANE SHAKING
cCURVE HITTING FRONT WALLcHUMP HITTING FRONT WALLcLOOP HITTING FRONT WALL
cWAVE HITTING FRONT WALLbROTATION-WALLPLANE SINGLE HITTING FRONT WALLcDOUBLE HITTING FRONT WALL
cALTERNATING HITTING FRONT WALLbMOVEMENT-WALLPLANE CURVE HITTING CHESTcHUMP HITTING CHEST
cLOOP HITTING CHESTcWAVE HITTING CHESTbROTATION-WALLPLANE SINGLE HITTING CHEST
cDOUBLE HITTING CHESTcALTERNATING HITTING CHESTbMOVEMENT-WALLPLANE WAVE DIAGONAL PATH SMALL
fMEDIUMfLARGEbMOVEMENT-FLOORPLANE CURVE HITTING CEILING SMALLfLARGE
cHUMP HITTING CEILING SMALL DOUBLEfLARGE DOUBLEfSMALL TRIPLEfLARGE TRIPLE
cLOOP HITTING CEILING SMALL SINGLEfLARGE SINGLEfSMALL DOUBLEfLARGE DOUBLE
cWAVE HITTING CEILING SMALLfLARGEbROTATION-FLOORPLANE SINGLE HITTING CEILING
cDOUBLE HITTING CEILINGcALTERNATING HITTING CEILING
bMOVEMENT-FLOORPLANE CURVE HITTING FLOOR SMALLfLARGEcHUMP HITTING FLOOR SMALL DOUBLE
fLARGE DOUBLEfTRIPLE SMALL TRIPLEgLARGE TRIPLEcLOOP HITTING FLOOR SMALL SINGLEfLARGE SINGLE
fSMALL DOUBLEfLARGE DOUBLEcWAVE HITTING FLOOR SMALLfLARGE
bROTATION-FLOORPLANE SINGLE HITTING FLOORcDOUBLE HITTING FLOORcALTERNATING HITTING FLOOR
bMOVEMENT-FLOORPLANE CURVE SMALLdMEDIUMdLARGEdLARGESTdCOMBINEDcHUMP SMALLcLOOP SMALLcWAVE SNAKE
dSMALLdLARGEbROTATION-FLOORPLANE SINGLEcDOUBLEcALTERNATINGbMOVEMENT-FLOORPLANE SHAKING PARALLEL
bMOVEMENT-WALLPLANE ARM CIRCLE SMALL SINGLEeMEDIUM SINGLEeSMALL DOUBLEeMEDIUM DOUBLE
bMOVEMENT-FLOORPLANE ARM CIRCLE HITTING WALL SMALL SINGLEgMEDIUM SINGLEgLARGE SINGLE
gSMALL DOUBLEgMEDIUM DOUBLEgLARGE DOUBLEbMOVEMENT-WALLPLANE WRIST CIRCLE FRONT SINGLEfDOUBLE
bMOVEMENT-FLOORPLANE WRIST CIRCLE HITTING WALL SINGLEgDOUBLE
bMOVEMENT-WALLPLANE FINGER CIRCLES SINGLEeDOUBLE
bMOVEMENT-FLOORPLANE FINGER CIRCLES HITTING WALL SINGLEgDOUBLEbDYNAMIC ARROWHEAD SMALLdLARGE
cFASTcSLOWcTENSEcRELAXEDcSIMULTANEOUSdALTERNATINGcEVERY OTHER TIMEcGRADUALbHEADcRIM
cMOVEMENT-WALLPLANE STRAIGHTdTILTcMOVEMENT-FLOORPLANE STRAIGHTcMOVEMENT-WALLPLANE CURVE
cMOVEMENT-FLOORPLANE CURVEcMOVEMENT CIRCLEbFACE DIRECTION POSITION NOSE FORWARD TILTING
fUP OR DOWNiTILTINGbEYEBROWS STRAIGHT UPdNEUTRALdDOWNbDREAMY EYEBROWS NEUTRAL DOWNdDOWN NEUTRAL
dUP NEUTRALdNEUTRAL UPbFOREHEAD NEUTRALcCONTACTcWRINKLEDbEYES OPENcSQUEEZEDcCLOSED
bEYE BLINK SINGLEdMULTIPLEbEYES HALF OPENcWIDE OPENcHALF CLOSEDcWIDENING MOVEMENTbEYE WINK
bEYELASHES UPcDOWNcFLUTTERINGbEYEGAZE-WALLPLANE STRAIGHTdDOUBLEdALTERNATING
bEYEGAZE-FLOORPLANE STRAIGHTdDOUBLEdALTERNATINGbEYEGAZE-WALLPLANE CURVED
bEYEGAZE-FLOORPLANE CURVEDbEYEGAZE-WALLPLANE CIRCLINGbCHEEKS PUFFEDcNEUTRALcSUCKED
bTENSE CHEEKS HIGHdMIDDLEdLOWbEARSbNOSE NEUTRALcCONTACTcWRINKLEScWIGGLESbAIR BLOWING OUT
cSUCKING INcBLOW SMALL ROTATIONScSUCK SMALL ROTATIONSbBREATH INHALEcEXHALEbMOUTH CLOSED NEUTRAL
dFORWARDdCONTACTcSMILEdWRINKLEDdOPENcFROWNdWRINKLEDdOPENcOPEN CIRCLEdFORWARDdWRINKLEDdOVAL
eWRINKLEDeYAWNdRECTANGLEeWRINKLEDeYAWNcKISSdFORWARDdWRINKLEDcTENSEdFORWARDdSUCKED
bLIPS PRESSED TOGETHERbLIP LOWER OVER UPPERcUPPER OVER LOWERbMOUTH CORNERScWRINKLES SINGLE
dDOUBLEbTONGUE STICKING OUT FARcLICKING LIPScTIP BETWEEN LIPSdTOUCHING INSIDE MOUTH
cINSIDE MOUTH RELAXEDcMOVES AGAINST CHEEKcCENTRE STICKING OUTdINSIDE MOUTHbTEETHcMOVEMENT
cON TONGUEeMOVEMENTdLIPSeMOVEMENTcBITE LIPSbMOVEMENT-WALLPLANE JAWbMOVEMENT-FLOORPLANE JAWbNECK
bHAIRbEXCITEMENTbSHOULDER HIP SPINEdPOSITIONSbWALLPLANE SHOULDER HIP MOVE
bFLOORPLANE SHOULDER HIP MOVEbSHOULDER TILTING FROM WAISTbTORSO-WALLPLANE STRAIGHT STRETCH
cCURVED BENDbTORSO-FLOORPLANE TWISTINGbUPPER BODY TILTING FROM HIP JOINTSbLIMB COMBINATION
cLENGTH-1cLENGTH-2cLENGTH-3cLENGTH-4cLENGTH-5cLENGTH-6cLENGTH-7bFINGERbLOCATION-WALLPLANE SPACE
bLOCATION-FLOORPLANE SPACEbLOCATION HEIGHTcWIDTHcDEPTHcHEAD NECKcTORSOcLIMBS DIGITSbCOMMA
bFULL STOPbSEMICOLONbCOLONbPARENTHESIS"),
  (0x1DA9B, "aSIGNWRITING FILL MODIFIER-2cMODIFIER-3cMODIFIER-4cMODIFIER-5cMODIFIER-6"),
  (0x1DAA1, "aSIGNWRITING ROTATION MODIFIER-2cMODIFIER-3cMODIFIER-4cMODIFIER-5cMODIFIER-6
cMODIFIER-7cMODIFIER-8cMODIFIER-9cMODIFIER-10cMODIFIER-11cMODIFIER-12cMODIFIER-13cMODIFIER-14
cMODIFIER-15cMODIFIER-16"),
  (0x1DF00, "aLATIN SMALL LETTER FENG DIGRAPH WITH TRILLdREVERSED SCRIPT G
bLETTER SMALL CAPITAL TURNED GbSMALL LETTER REVERSED KbLETTER SMALL CAPITAL L WITH BELT
bSMALL LETTER LEZH WITH RETROFLEX HOOKdTURNED Y WITH BELTdREVERSED ENG
dTURNED R WITH LONG LEG AND RETROFLEX HOOKdT WITH HOOK AND RETROFLEX HOOK
bLETTER RETROFLEX CLICK WITH RETROFLEX HOOKbSMALL LETTER ESH WITH DOUBLE BARhAND CURL
dTURNED T WITH CURLbLETTER INVERTED GLOTTAL STOP WITH CURLcSTRETCHED C WITH CURL
cSMALL CAPITAL TURNED KbSMALL LETTER L WITH FISHHOOKdDEZH DIGRAPH WITH PALATAL HOOK
dL WITH BELT AND PALATAL HOOKdENG WITH PALATAL HOOKdTURNED R WITH PALATAL HOOK
dR WITH FISHHOOK AND PALATAL HOOKdTESH DIGRAPH WITH PALATAL HOOKdEZH WITH PALATAL HOOK
dDEZH DIGRAPH WITH RETROFLEX HOOKdI WITH STROKE AND RETROFLEX HOOKdO WITH RETROFLEX HOOK
dTESH DIGRAPH WITH RETROFLEX HOOKdC WITH RETROFLEX HOOKdS WITH CURL"),
  (0x1E000, "aCOMBINING GLAGOLITIC LETTER AZUdBUKYdVEDEdGLAGOLIdDOBROdYESTUdZHIVETE"),
  (0x1E008, "aCOMBINING GLAGOLITIC LETTER ZEMLJAdIZHEdINITIAL IZHEdIdDJERVIdKAKOdLJUDIJEdMYSLITE
dNASHIdONUdPOKOJIdRITSIdSLOVOdTVRIDOdUKUdFRITUdHERU"),
  (0x1E01B, "aCOMBINING GLAGOLITIC LETTER SHTAdTSIdCHRIVIdSHAdYERUdYERIdYATI"),
  (0x1E023, "aCOMBINING GLAGOLITIC LETTER YUdSMALL YUS"),
  (0x1E026, "aCOMBINING GLAGOLITIC LETTER YOdIOTATED SMALL YUSdBIG YUSdIOTATED BIG YUSdFITA"),
  (0x1E100, "aNYIAKENG PUACHUE HMONG LETTER MAeTSAeNTAeTAeHAeNAeXAeNKAeCAeLAeSAeZAeNCAeNTSAeKA
eDAeNYAeNRAeVAeNTXAeTXAeFAeRAeQAeYAeNQAePAeXYAeNPAeDLAeNPLAeHAHeMLAePLAeGAeRRAeAeAAeIeUeOeOOeE
eEEeW"),
  (0x1E130, "aNYIAKENG PUACHUE HMONG TONE-BdTONE-MdTONE-JdTONE-VdTONE-SdTONE-GdTONE-D
dSIGN FOR PERSONfTHINGfLOCATIONfANIMALfINVERTEBRATEeXW XWdSYLLABLE LENGTHENER"),
  (0x1E140, "aNYIAKENG PUACHUE HMONG DIGIT ZEROeONEeTWOeTHREEeFOUReFIVEeSIXeSEVENeEIGHTeNINE"),
  (0x1E14E, "aNYIAKENG PUACHUE HMONG LOGOGRAM NYAJdCIRCLED CA"),
  (0x1E290, "aTOTO LETTER PAcBAcTAcDAcKAcGAcMAcNAcNGAcSAcCHAcYAcWAcJAcHAcRAcLAcIcBREATHY IcIU
cBREATHY IUcUcEcBREATHY EcEOcBREATHY EOcOcAEcBREATHY AEcAbSIGN RISING TONE"),
  (0x1E2C0, "aWANCHO LETTER AAcAcBAcCAcDAcGAcYAcPHAcLAcNAcPAcTAcTHAcFAcSAcSHAcJAcZAcWAcVAcKAcO
cAUcRAcMAcKHAcHAcEcIcNGAcUcLLHAcTSAcTRAcONGcAANGcANGcINGcONcENcAANcNYAcUENcYIHbTONE TUPcTUPNI
cKOIcKOINIbDIGIT ZEROcONEcTWOcTHREEcFOURcFIVEcSIXcSEVENcEIGHTcNINE"),
  (0x1E2FF, "aWANCHO NGUN SIGN"),
  (0x1E7E0, "aETHIOPIC SYLLABLE HHYAcHHYUcHHYIcHHYAAcHHYEEcHHYEcHHYO"),
  (0x1E7E8, "aETHIOPIC SYLLABLE GURAGE HHWAcHHWIcHHWEEcHHWE"),
  (0x1E7ED, "aETHIOPIC SYLLABLE GURAGE MWIdMWEE"),
  (0x1E7F0, "aETHIOPIC SYLLABLE GURAGE QWIdQWEEdQWEdBWIdBWEEdKWIdKWEEdKWEdGWIdGWEEdGWEdFWIdFWEE
dPWIdPWEE"),
  (0x1E800, "aMENDE KIKAKUI SYLLABLE M001 KIdM002 KAdM003 KUdM065 KEEdM095 KEdM076 KOOdM048 KO
dM179 KUAdM004 WIdM005 WAdM006 WUdM126 WEEdM118 WEdM114 WOOdM045 WOdM194 WUIdM143 WEIdM061 WVI
dM049 WVAdM139 WVEdM007 MINdM008 MANdM009 MUNdM059 MENdM094 MONdM154 MUANdM189 MUENdM010 BI
dM011 BAdM012 BUdM150 BEEdM097 BEdM103 BOOdM138 BOdM013 IdM014 AdM015 UdM163 EEdM100 EdM165 OO
dM147 OdM137 EIdM131 INdM135 INdM195 ANdM178 ENdM019 SIdM020 SAdM021 SUdM162 SEEdM116 SE
dM136 SOOdM079 SOdM196 SIAdM025 LIdM026 LAdM027 LUdM084 LEEdM073 LEdM054 LOOdM153 LO
dM110 LONG LEdM016 DIdM017 DAdM018 DUdM089 DEEdM180 DOOdM181 DOdM022 TIdM023 TAdM024 TUdM091 TEE
dM055 TEdM104 TOOdM069 TOdM028 JIdM029 JAdM030 JUdM157 JEEdM113 JEdM160 JOOdM063 JOdM175 LONG JO
dM031 YIdM032 YAdM033 YUdM109 YEEdM080 YEdM141 YOOdM121 YOdM034 FIdM035 FAdM036 FUdM078 FEE
dM075 FEdM133 FOOdM088 FOdM197 FUAdM101 FANdM037 NINdM038 NANdM039 NUNdM117 NENdM169 NONdM176 HI
dM041 HAdM186 HUdM040 HEEdM096 HEdM042 HOOdM140 HOdM083 HEEIdM128 HOOUdM053 HINdM130 HAN
dM087 HUNdM052 HENdM193 HONdM046 HUANdM090 NGGIdM043 NGGAdM082 NGGUdM115 NGGEEdM146 NGGE
dM156 NGGOOdM120 NGGOdM159 NGGAAdM127 NGGUAdM086 LONG NGGEdM106 LONG NGGOOdM183 LONG NGGO
dM155 GIdM111 GAdM168 GUdM190 GEEdM166 GUEIdM167 GUANdM184 NGENdM057 NGONdM177 NGUANdM068 PI
dM099 PAdM050 PUdM081 PEEdM051 PEdM102 POOdM066 POdM145 MBIdM062 MBAdM122 MBUdM047 MBEE
dM188 MBEEdM072 MBEdM172 MBOOdM174 MBOdM187 MBUUdM161 LONG MBEdM105 LONG MBOOdM142 LONG MBO
dM132 KPIdM092 KPAdM074 KPUdM044 KPEEdM108 KPEdM112 KPOOdM158 KPOdM124 GBIdM056 GBAdM148 GBU
dM093 GBEEdM107 GBEdM071 GBOOdM070 GBOdM171 RAdM123 NDIdM129 NDAdM125 NDUdM191 NDEEdM119 NDE
dM067 NDOOdM064 NDOdM152 NJAdM192 NJUdM149 NJEEdM134 NJOOdM182 VIdM185 VAdM151 VUdM173 VEE
dM085 VEdM144 VOOdM077 VOdM164 NYINdM058 NYANdM170 NYUNdM098 NYENdM060 NYON"),
  (0x1E8C7, "aMENDE KIKAKUI DIGIT ONEdTWOdTHREEdFOURdFIVEdSIXdSEVENdEIGHTdNINE
cCOMBINING NUMBER TEENSeTENSeHUNDREDSeTHOUSANDSeTEN THOUSANDSeHUNDRED THOUSANDSeMILLIONS"),
  (0x1E900, "aADLAM CAPITAL LETTER ALIFdDAALIdLAAMdMIIMdBAdSINNYIIYHEdPEdBHEdRAdEdFAdIdOdDHAdYHE
dWAWdNUNdKAFdYAdUdJIIMdCHIdHAdQAAFdGAdNYAdTUdNHAdVAdKHAdGBEdZALdKPOdSHAbSMALL LETTER ALIFdDAALI
dLAAMdMIIMdBAdSINNYIIYHEdPEdBHEdRAdEdFAdIdOdDHAdYHEdWAWdNUNdKAFdYAdUdJIIMdCHIdHAdQAAFdGAdNYAdTU
dNHAdVAdKHAdGBEdZALdKPOdSHAbALIF LENGTHENERbVOWEL LENGTHENERbGEMINATION MARKbHAMZA
bCONSONANT MODIFIERbGEMINATE CONSONANT MODIFIERbNUKTAbNASALIZATION MARK"),
  (0x1E950, "aADLAM DIGIT ZEROcONEcTWOcTHREEcFOURcFIVEcSIXcSEVENcEIGHTcNINE"),
  (0x1E95E, "aADLAM INITIAL EXCLAMATION MARKcQUESTION MARK"),
  (0x1EC71, "aINDIC SIYAQ NUMBER ONEdTWOdTHREEdFOURdFIVEdSIXdSEVENdEIGHTdNINEdTENdTWENTYdTHIRTY
dFORTYdFIFTYdSIXTYdSEVENTYdEIGHTYdNINETYdONE HUNDREDdTWO HUNDREDdTHREE HUNDREDdFOUR HUNDRED
dFIVE HUNDREDdSIX HUNDREDdSEVEN HUNDREDdEIGHT HUNDREDdNINE HUNDREDdONE THOUSANDdTWO THOUSAND
dTHREE THOUSANDdFOUR THOUSANDdFIVE THOUSANDdSIX THOUSANDdSEVEN THOUSANDdEIGHT THOUSAND
dNINE THOUSANDdTEN THOUSANDdTWENTY THOUSANDdTHIRTY THOUSANDdFORTY THOUSANDdFIFTY THOUSAND
dSIXTY THOUSANDdSEVENTY THOUSANDdEIGHTY THOUSANDdNINETY THOUSANDdLAKHdLAKHANcLAKH MARK
cNUMBER KARORdKARORANdPREFIXED ONEeTWOeTHREEeFOUReFIVEeSIXeSEVENeEIGHTeNINEcPLACEHOLDER
cFRACTION ONE QUARTEReHALFdTHREE QUARTERScRUPEE MARKcNUMBER ALTERNATE ONEeTWOeTEN THOUSAND
cALTERNATE LAKH MARK"),
  (0x1ED01, "aOTTOMAN SIYAQ NUMBER ONEdTWOdTHREEdFOURdFIVEdSIXdSEVENdEIGHTdNINEdTENdTWENTY
dTHIRTYdFORTYdFIFTYdSIXTYdSEVENTYdEIGHTYdNINETYdONE HUNDREDdTWO HUNDREDdTHREE HUNDRED
dFOUR HUNDREDdFIVE HUNDREDdSIX HUNDREDdSEVEN HUNDREDdEIGHT HUNDREDdNINE HUNDREDdONE THOUSAND
dTWO THOUSANDdTHREE THOUSANDdFOUR THOUSANDdFIVE THOUSANDdSIX THOUSANDdSEVEN THOUSAND
dEIGHT THOUSANDdNINE THOUSANDdTEN THOUSANDdTWENTY THOUSANDdTHIRTY THOUSANDdFORTY THOUSAND
dFIFTY THOUSANDdSIXTY THOUSANDdSEVENTY THOUSANDdEIGHTY THOUSANDdNINETY THOUSANDcMARRATAN
cALTERNATE NUMBER TWOeTHREEeFOUReFIVEeSIXeSEVENeEIGHTeNINEeTENeFOUR HUNDREDeSIX HUNDRED
eTWO THOUSANDeTEN THOUSANDcFRACTION ONE HALFeSIXTH"),
  (0x1EE00, "aARABIC MATHEMATICAL ALEFcBEHcJEEMcDAL"),
  (0x1EE05, "aARABIC MATHEMATICAL WAWcZAINcHAHcTAHcYEHcKAFcLAMcMEEMcNOONcSEENcAINcFEHcSADcQAF
cREHcSHEENcTEHcTHEHcKHAHcTHALcDADcZAHcGHAINcDOTLESS BEHdNOONdFEHdQAF"),
  (0x1EE21, "aARABIC MATHEMATICAL INITIAL BEHdJEEM"),
  (0x1EE24, "aARABIC MATHEMATICAL INITIAL HEH"),
  (0x1EE27, "aARABIC MATHEMATICAL INITIAL HAH"),
  (0x1EE29, "aARABIC MATHEMATICAL INITIAL YEHdKAFdLAMdMEEMdNOONdSEENdAINdFEHdSADdQAF"),
  (0x1EE34, "aARABIC MATHEMATICAL INITIAL SHEENdTEHdTHEHdKHAH"),
  (0x1EE39, "aARABIC MATHEMATICAL INITIAL DAD"),
  (0x1EE3B, "aARABIC MATHEMATICAL INITIAL GHAIN"),
  (0x1EE42, "aARABIC MATHEMATICAL TAILED JEEM"),
  (0x1EE47, "aARABIC MATHEMATICAL TAILED HAH"),
  (0x1EE49, "aARABIC MATHEMATICAL TAILED YEH"),
  (0x1EE4B, "aARABIC MATHEMATICAL TAILED LAM"),
  (0x1EE4D, "aARABIC MATHEMATICAL TAILED NOONdSEENdAIN"),
  (0x1EE51, "aARABIC MATHEMATICAL TAILED SADdQAF"),
  (0x1EE54, "aARABIC MATHEMATICAL TAILED SHEEN"),
  (0x1EE57, "aARABIC MATHEMATICAL TAILED KHAH"),
  (0x1EE59, "aARABIC MATHEMATICAL TAILED DAD"),
  (0x1EE5B, "aARABIC MATHEMATICAL TAILED GHAIN"),
  (0x1EE5D, "aARABIC MATHEMATICAL TAILED DOTLESS NOON"),
  (0x1EE5F, "aARABIC MATHEMATICAL TAILED DOTLESS QAF"),
  (0x1EE61, "aARABIC MATHEMATICAL STRETCHED BEHdJEEM"),
  (0x1EE64, "aARABIC MATHEMATICAL STRETCHED HEH"),
  (0x1EE67, "aARABIC MATHEMATICAL STRETCHED HAHdTAHdYEHdKAF"),
  (0x1EE6C, "aARABIC MATHEMATICAL STRETCHED MEEMdNOONdSEENdAINdFEHdSADdQAF"),
  (0x1EE74, "aARABIC MATHEMATICAL STRETCHED SHEENdTEHdTHEHdKHAH"),
  (0x1EE79, "aARABIC MATHEMATICAL STRETCHED DADdZAHdGHAINdDOTLESS BEH"),
  (0x1EE7E, "aARABIC MATHEMATICAL STRETCHED DOTLESS FEH"),
  (0x1EE80, "aARABIC MATHEMATICAL LOOPED ALEFdBEHdJEEMdDALdHEHdWAWdZAINdHAHdTAHdYEH"),
  (0x1EE8B, "aARABIC MATHEMATICAL LOOPED LAMdMEEMdNOONdSEENdAINdFEHdSADdQAFdREHdSHEENdTEHdTHEH
dKHAHdTHALdDADdZAHdGHAIN"),
  (0x1EEA1, "aARABIC MATHEMATICAL DOUBLE-STRUCK BEHdJEEMdDAL"),
  (0x1EEA5, "aARABIC MATHEMATICAL DOUBLE-STRUCK WAWdZAINdHAHdTAHdYEH"),
  (0x1EEAB, "aARABIC MATHEMATICAL DOUBLE-STRUCK LAMdMEEMdNOONdSEENdAINdFEHdSADdQAFdREHdSHEENdTEH
dTHEHdKHAHdTHALdDADdZAHdGHAIN"),
  (0x1EEF0, "aARABIC MATHEMATICAL OPERATOR MEEM WITH HAH WITH TATWEELdHAH WITH DAL"),
  (0x1F000, "aMAHJONG TILE EAST WINDcSOUTH WINDcWEST WINDcNORTH WINDcRED DRAGONcGREEN DRAGON
cWHITE DRAGONcONE OF CHARACTERScTWO OF CHARACTERScTHREE OF CHARACTERScFOUR OF CHARACTERS
cFIVE OF CHARACTERScSIX OF CHARACTERScSEVEN OF CHARACTERScEIGHT OF CHARACTERScNINE OF CHARACTERS
cONE OF BAMBOOScTWO OF BAMBOOScTHREE OF BAMBOOScFOUR OF BAMBOOScFIVE OF BAMBOOScSIX OF BAMBOOS
cSEVEN OF BAMBOOScEIGHT OF BAMBOOScNINE OF BAMBOOScONE OF CIRCLEScTWO OF CIRCLES
cTHREE OF CIRCLEScFOUR OF CIRCLEScFIVE OF CIRCLEScSIX OF CIRCLEScSEVEN OF CIRCLES
cEIGHT OF CIRCLEScNINE OF CIRCLEScPLUMcORCHIDcBAMBOOcCHRYSANTHEMUMcSPRINGcSUMMERcAUTUMNcWINTER
cJOKERcBACK"),
  (0x1F030, "aDOMINO TILE HORIZONTAL BACKcHORIZONTAL-00-00cHORIZONTAL-00-01cHORIZONTAL-00-02
cHORIZONTAL-00-03cHORIZONTAL-00-04cHORIZONTAL-00-05cHORIZONTAL-00-06cHORIZONTAL-01-00
cHORIZONTAL-01-01cHORIZONTAL-01-02cHORIZONTAL-01-03cHORIZONTAL-01-04cHORIZONTAL-01-05
cHORIZONTAL-01-06cHORIZONTAL-02-00cHORIZONTAL-02-01cHORIZONTAL-02-02cHORIZONTAL-02-03
cHORIZONTAL-02-04cHORIZONTAL-02-05cHORIZONTAL-02-06cHORIZONTAL-03-00cHORIZONTAL-03-01
cHORIZONTAL-03-02cHORIZONTAL-03-03cHORIZONTAL-03-04cHORIZONTAL-03-05cHORIZONTAL-03-06
cHORIZONTAL-04-00cHORIZONTAL-04-01cHORIZONTAL-04-02cHORIZONTAL-04-03cHORIZONTAL-04-04
cHORIZONTAL-04-05cHORIZONTAL-04-06cHORIZONTAL-05-00cHORIZONTAL-05-01cHORIZONTAL-05-02
cHORIZONTAL-05-03cHORIZONTAL-05-04cHORIZONTAL-05-05cHORIZONTAL-05-06cHORIZONTAL-06-00
cHORIZONTAL-06-01cHORIZONTAL-06-02cHORIZONTAL-06-03cHORIZONTAL-06-04cHORIZONTAL-06-05
cHORIZONTAL-06-06cVERTICAL BACKcVERTICAL-00-00cVERTICAL-00-01cVERTICAL-00-02cVERTICAL-00-03
cVERTICAL-00-04cVERTICAL-00-05cVERTICAL-00-06cVERTICAL-01-00cVERTICAL-01-01cVERTICAL-01-02
cVERTICAL-01-03cVERTICAL-01-04cVERTICAL-01-05cVERTICAL-01-06cVERTICAL-02-00cVERTICAL-02-01
cVERTICAL-02-02cVERTICAL-02-03cVERTICAL-02-04cVERTICAL-02-05cVERTICAL-02-06cVERTICAL-03-00
cVERTICAL-03-01cVERTICAL-03-02cVERTICAL-03-03cVERTICAL-03-04cVERTICAL-03-05cVERTICAL-03-06
cVERTICAL-04-00cVERTICAL-04-01cVERTICAL-04-02cVERTICAL-04-03cVERTICAL-04-04cVERTICAL-04-05
cVERTICAL-04-06cVERTICAL-05-00cVERTICAL-05-01cVERTICAL-05-02cVERTICAL-05-03cVERTICAL-05-04
cVERTICAL-05-05cVERTICAL-05-06cVERTICAL-06-00cVERTICAL-06-01cVERTICAL-06-02cVERTICAL-06-03
cVERTICAL-06-04cVERTICAL-06-05cVERTICAL-06-06"),
  (0x1F0A0, "aPLAYING CARD BACKcACE OF SPADEScTWO OF SPADEScTHREE OF SPADEScFOUR OF SPADES
cFIVE OF SPADEScSIX OF SPADEScSEVEN OF SPADEScEIGHT OF SPADEScNINE OF SPADEScTEN OF SPADES
cJACK OF SPADEScKNIGHT OF SPADEScQUEEN OF SPADEScKING OF SPADES"),
  (0x1F0B1, "aPLAYING CARD ACE OF HEARTScTWO OF HEARTScTHREE OF HEARTScFOUR OF HEARTS
cFIVE OF HEARTScSIX OF HEARTScSEVEN OF HEARTScEIGHT OF HEARTScNINE OF HEARTScTEN OF HEARTS
cJACK OF HEARTScKNIGHT OF HEARTScQUEEN OF HEARTScKING OF HEARTScRED JOKER"),
  (0x1F0C1, "aPLAYING CARD ACE OF DIAMONDScTWO OF DIAMONDScTHREE OF DIAMONDScFOUR OF DIAMONDS
cFIVE OF DIAMONDScSIX OF DIAMONDScSEVEN OF DIAMONDScEIGHT OF DIAMONDScNINE OF DIAMONDS
cTEN OF DIAMONDScJACK OF DIAMONDScKNIGHT OF DIAMONDScQUEEN OF DIAMONDScKING OF DIAMONDS
cBLACK JOKER"),
  (0x1F0D1, "aPLAYING CARD ACE OF CLUBScTWO OF CLUBScTHREE OF CLUBScFOUR OF CLUBScFIVE OF CLUBS
cSIX OF CLUBScSEVEN OF CLUBScEIGHT OF CLUBScNINE OF CLUBScTEN OF CLUBScJACK OF CLUBS
cKNIGHT OF CLUBScQUEEN OF CLUBScKING OF CLUBScWHITE JOKERcFOOLcTRUMP-1cTRUMP-2cTRUMP-3cTRUMP-4
cTRUMP-5cTRUMP-6cTRUMP-7cTRUMP-8cTRUMP-9cTRUMP-10cTRUMP-11cTRUMP-12cTRUMP-13cTRUMP-14cTRUMP-15
cTRUMP-16cTRUMP-17cTRUMP-18cTRUMP-19cTRUMP-20cTRUMP-21"),
  (0x1F100, "aDIGIT ZERO FULL STOPcCOMMAbONE COMMAbTWO COMMAbTHREE COMMAbFOUR COMMAbFIVE COMMA
bSIX COMMAbSEVEN COMMAbEIGHT COMMAbNINE COMMAaDINGBAT CIRCLED SANS-SERIF DIGIT ZERO
bNEGATIVE CIRCLED SANS-SERIF DIGIT ZEROaCIRCLED ZERO WITH SLASHbANTICLOCKWISE ARROW
bDOLLAR SIGN WITH OVERLAID BACKSLASHaPARENTHESIZED LATIN CAPITAL LETTER AeBeCeDeEeFeGeHeIeJeKeL
eMeNeOePeQeReSeTeUeVeWeXeYeZaTORTOISE SHELL BRACKETED LATIN CAPITAL LETTER S
aCIRCLED ITALIC LATIN CAPITAL LETTER CfRbCDbWZaCOPYLEFT SYMBOLaSQUARED LATIN CAPITAL LETTER AeB
eCeDeEeFeGeHeIeJeKeLeMeNeOePeQeReSeTeUeVeWeXeYeZbHVbMVbSDbSSbPPVbWC
aNEGATIVE CIRCLED LATIN CAPITAL LETTER AfBfCfDfEfFfGfHfIfJfKfLfMfNfOfPfQfRfSfTfUfVfWfXfYfZ
aRAISED MC SIGNbMD SIGNbMR SIGNaCIRCLED CCbC WITH OVERLAID BACKSLASHbHUMAN FIGURE
aNEGATIVE SQUARED LATIN CAPITAL LETTER AfBfCfDfEfFfGfHfIfJfKfLfMfNfOfPfQfRfSfTfUfVfWfXfYfZ
aCROSSED NEGATIVE SQUARED LATIN CAPITAL LETTER PaNEGATIVE SQUARED ICcPAcSAcABcWCaSQUARE DJ
aSQUARED CLbCOOLbFREEbIDbNEWbNGbOKbSOSbUP WITH EXCLAMATION MARKbVSbTHREE DbSECOND SCREENbTWO K
bFOUR KbEIGHT KbFIVE POINT ONEbSEVEN POINT ONEbTWENTY-TWO POINT TWObSIXTY PbONE HUNDRED TWENTY P
bLATIN SMALL LETTER DbHCbHDRbHI-RESbLOSSLESSbSHVbUHDbVODaMASK WORK SYMBOL"),
  (0x1F1E6, "aREGIONAL INDICATOR SYMBOL LETTER AeBeCeDeEeFeGeHeIeJeKeLeMeNeOePeQeReSeTeUeVeWeXeY
eZaSQUARE HIRAGANA HOKAaSQUARED KATAKANA KOKOcSA"),
  (0x1F210, "aSQUARED CJK UNIFIED IDEOGRAPH-624BdIDEOGRAPH-5B57dIDEOGRAPH-53CCbKATAKANA DE
bCJK UNIFIED IDEOGRAPH-4E8CdIDEOGRAPH-591AdIDEOGRAPH-89E3dIDEOGRAPH-5929dIDEOGRAPH-4EA4
dIDEOGRAPH-6620dIDEOGRAPH-7121dIDEOGRAPH-6599dIDEOGRAPH-524DdIDEOGRAPH-5F8CdIDEOGRAPH-518D
dIDEOGRAPH-65B0dIDEOGRAPH-521DdIDEOGRAPH-7D42dIDEOGRAPH-751FdIDEOGRAPH-8CA9dIDEOGRAPH-58F0
dIDEOGRAPH-5439dIDEOGRAPH-6F14dIDEOGRAPH-6295dIDEOGRAPH-6355dIDEOGRAPH-4E00dIDEOGRAPH-4E09
dIDEOGRAPH-904AdIDEOGRAPH-5DE6dIDEOGRAPH-4E2DdIDEOGRAPH-53F3dIDEOGRAPH-6307dIDEOGRAPH-8D70
dIDEOGRAPH-6253dIDEOGRAPH-7981dIDEOGRAPH-7A7AdIDEOGRAPH-5408dIDEOGRAPH-6E80dIDEOGRAPH-6709
dIDEOGRAPH-6708dIDEOGRAPH-7533dIDEOGRAPH-5272dIDEOGRAPH-55B6dIDEOGRAPH-914D"),
  (0x1F240, "aTORTOISE SHELL BRACKETED CJK UNIFIED IDEOGRAPH-672CfIDEOGRAPH-4E09fIDEOGRAPH-4E8C
fIDEOGRAPH-5B89fIDEOGRAPH-70B9fIDEOGRAPH-6253fIDEOGRAPH-76D7fIDEOGRAPH-52DDfIDEOGRAPH-6557"),
  (0x1F250, "aCIRCLED IDEOGRAPH ADVANTAGEcACCEPT"),
  (0x1F260, "aROUNDED SYMBOL FOR FUdLUdSHOUdXIdSHUANGXIdCAI"),
  (0x1F300, "aCYCLONEaFOGGYaCLOSED UMBRELLAaNIGHT WITH STARSaSUNRISE OVER MOUNTAINSb
aCITYSCAPE AT DUSKaSUNSET OVER BUILDINGSaRAINBOWaBRIDGE AT NIGHTaWATER WAVEaVOLCANOaMILKY WAY
aEARTH GLOBE EUROPE-AFRICAcAMERICAScASIA-AUSTRALIAaGLOBE WITH MERIDIANSaNEW MOON SYMBOL
aWAXING CRESCENT MOON SYMBOLaFIRST QUARTER MOON SYMBOLaWAXING GIBBOUS MOON SYMBOL
aFULL MOON SYMBOLaWANING GIBBOUS MOON SYMBOLaLAST QUARTER MOON SYMBOL
aWANING CRESCENT MOON SYMBOLaCRESCENT MOONaNEW MOON WITH FACEaFIRST QUARTER MOON WITH FACE
aLAST QUARTER MOON WITH FACEaFULL MOON WITH FACEaSUN WITH FACEaGLOWING STARaSHOOTING STAR
aTHERMOMETERaBLACK DROPLETaWHITE SUNcWITH SMALL CLOUDcBEHIND CLOUDeWITH RAINaCLOUD WITH RAIN
cSNOWcLIGHTNINGcTORNADOaFOGaWIND BLOWING FACEaHOT DOGaTACOaBURRITOaCHESTNUTaSEEDLING
aEVERGREEN TREEaDECIDUOUS TREEaPALM TREEaCACTUSaHOT PEPPERaTULIPaCHERRY BLOSSOMaROSEaHIBISCUS
aSUNFLOWERaBLOSSOMaEAR OF MAIZEcRICEaHERBaFOUR LEAF CLOVERaMAPLE LEAFaFALLEN LEAF
aLEAF FLUTTERING IN WINDaMUSHROOMaTOMATOaAUBERGINEaGRAPESaMELONaWATERMELONaTANGERINEaLEMON
aBANANAaPINEAPPLEaRED APPLEaGREEN APPLEaPEARaPEACHaCHERRIESaSTRAWBERRYaHAMBURGERaSLICE OF PIZZA
aMEAT ON BONEaPOULTRY LEGaRICE CRACKERbBALLaCOOKED RICEaCURRY AND RICEaSTEAMING BOWLaSPAGHETTI
aBREADaFRENCH FRIESaROASTED SWEET POTATOaDANGOaODENaSUSHIaFRIED SHRIMP
aFISH CAKE WITH SWIRL DESIGNaSOFT ICE CREAMaSHAVED ICEaICE CREAMaDOUGHNUTaCOOKIEaCHOCOLATE BAR
aCANDYaLOLLIPOPaCUSTARDaHONEY POTaSHORTCAKEaBENTO BOXaPOT OF FOODaCOOKINGaFORK AND KNIFE
aTEACUP WITHOUT HANDLEaSAKE BOTTLE AND CUPaWINE GLASSaCOCKTAIL GLASSaTROPICAL DRINKaBEER MUG
aCLINKING BEER MUGSaBABY BOTTLEaFORK AND KNIFE WITH PLATEaBOTTLE WITH POPPING CORKaPOPCORN
aRIBBONaWRAPPED PRESENTaBIRTHDAY CAKEaJACK-O-LANTERNaCHRISTMAS TREEaFATHER CHRISTMASaFIREWORKS
aFIREWORK SPARKLERaBALLOONaPARTY POPPERaCONFETTI BALLaTANABATA TREEaCROSSED FLAGS
aPINE DECORATIONaJAPANESE DOLLSaCARP STREAMERaWIND CHIMEaMOON VIEWING CEREMONYaSCHOOL SATCHEL
aGRADUATION CAPaHEART WITH TIP ON THE LEFTaBOUQUET OF FLOWERSaMILITARY MEDALaREMINDER RIBBON
aMUSICAL KEYBOARD WITH JACKSaSTUDIO MICROPHONEaLEVEL SLIDERaCONTROL KNOBS
aBEAMED ASCENDING MUSICAL NOTESbDESCENDING MUSICAL NOTESaFILM FRAMESaADMISSION TICKETS
aCAROUSEL HORSEaFERRIS WHEELaROLLER COASTERaFISHING POLE AND FISHaMICROPHONEaMOVIE CAMERAaCINEMA
aHEADPHONEaARTIST PALETTEaTOP HATaCIRCUS TENTaTICKETaCLAPPER BOARDaPERFORMING ARTSaVIDEO GAME
aDIRECT HITaSLOT MACHINEaBILLIARDSaGAME DIEaBOWLINGaFLOWER PLAYING CARDSaMUSICAL NOTE
aMULTIPLE MUSICAL NOTESaSAXOPHONEaGUITARaMUSICAL KEYBOARDaTRUMPETaVIOLINaMUSICAL SCORE
aRUNNING SHIRT WITH SASHaTENNIS RACQUET AND BALLaSKI AND SKI BOOTaBASKETBALL AND HOOP
aCHEQUERED FLAGaSNOWBOARDERaRUNNERaSURFERaSPORTS MEDALaTROPHYaHORSE RACINGaAMERICAN FOOTBALL
aRUGBY FOOTBALLaSWIMMERaWEIGHT LIFTERaGOLFERaRACING MOTORCYCLEbCARaCRICKET BAT AND BALL
aVOLLEYBALLaFIELD HOCKEY STICK AND BALLaICE HOCKEY STICK AND PUCKaTABLE TENNIS PADDLE AND BALL
aSNOW CAPPED MOUNTAINaCAMPINGaBEACH WITH UMBRELLAaBUILDING CONSTRUCTIONaHOUSE BUILDINGS
aCITYSCAPEaDERELICT HOUSE BUILDINGaCLASSICAL BUILDINGaDESERTbISLANDaNATIONAL PARKaSTADIUM
aHOUSE BUILDINGbWITH GARDENaOFFICE BUILDINGaJAPANESE POST OFFICEaEUROPEAN POST OFFICEaHOSPITAL
aBANKaAUTOMATED TELLER MACHINEaHOTELaLOVE HOTELaCONVENIENCE STOREaSCHOOLaDEPARTMENT STORE
aFACTORYaIZAKAYA LANTERNaJAPANESE CASTLEaEUROPEAN CASTLEaWHITE PENNANTaBLACK PENNANT
aWAVING WHITE FLAGbBLACK FLAGaROSETTEaBLACK ROSETTEaLABELaBADMINTON RACQUET AND SHUTTLECOCK
aBOW AND ARROWaAMPHORAaEMOJI MODIFIER FITZPATRICK TYPE-1-2dTYPE-3dTYPE-4dTYPE-5dTYPE-6aRATaMOUSE
aOXaWATER BUFFALOaCOWaTIGERaLEOPARDaRABBITaCATaDRAGONaCROCODILEaWHALEaSNAILaSNAKEaHORSEaRAMaGOAT
aSHEEPaMONKEYaROOSTERaCHICKENaDOGaPIGaBOARaELEPHANTaOCTOPUSaSPIRAL SHELLaBUGaANTaHONEYBEE
aLADY BEETLEaFISHaTROPICAL FISHaBLOWFISHaTURTLEaHATCHING CHICKaBABY CHICK
aFRONT-FACING BABY CHICKaBIRDaPENGUINaKOALAaPOODLEaDROMEDARY CAMELaBACTRIAN CAMELaDOLPHIN
aMOUSE FACEaCOW FACEaTIGER FACEaRABBIT FACEaCAT FACEaDRAGON FACEaSPOUTING WHALEaHORSE FACE
aMONKEY FACEaDOG FACEaPIG FACEaFROG FACEaHAMSTER FACEaWOLF FACEaBEAR FACEaPANDA FACEaPIG NOSE
aPAW PRINTSaCHIPMUNKaEYESaEYEaEARaNOSEaMOUTHaTONGUEaWHITE UP POINTING BACKHAND INDEX
bDOWN POINTING BACKHAND INDEXbLEFT POINTING BACKHAND INDEXbRIGHT POINTING BACKHAND INDEX
aFISTED HAND SIGNaWAVING HAND SIGNaOK HAND SIGNaTHUMBS UP SIGNbDOWN SIGNaCLAPPING HANDS SIGN
aOPEN HANDS SIGNaCROWNaWOMANS HATaEYEGLASSESaNECKTIEaT-SHIRTaJEANSaDRESSaKIMONOaBIKINI
aWOMANS CLOTHESaPURSEaHANDBAGaPOUCHaMANS SHOEaATHLETIC SHOEaHIGH-HEELED SHOEaWOMANS SANDALbBOOTS
aFOOTPRINTSaBUST IN SILHOUETTEaBUSTS IN SILHOUETTEaBOYaGIRLaMANaWOMANaFAMILY
aMAN AND WOMAN HOLDING HANDSaTWO MEN HOLDING HANDSbWOMEN HOLDING HANDSaPOLICE OFFICER
aWOMAN WITH BUNNY EARSaBRIDE WITH VEILaPERSON WITH BLOND HAIRaMAN WITH GUA PI MAOcTURBAN
aOLDER MANbWOMANaBABYaCONSTRUCTION WORKERaPRINCESSaJAPANESE OGREbGOBLINaGHOSTaBABY ANGEL
aEXTRATERRESTRIAL ALIENaALIEN MONSTERaIMPaSKULLaINFORMATION DESK PERSONaGUARDSMANaDANCER
aLIPSTICKaNAIL POLISHaFACE MASSAGEaHAIRCUTaBARBER POLEaSYRINGEaPILLaKISS MARKaLOVE LETTERaRING
aGEM STONEaKISSaBOUQUETaCOUPLE WITH HEARTaWEDDINGaBEATING HEARTaBROKEN HEARTaTWO HEARTS
aSPARKLING HEARTaGROWING HEARTaHEART WITH ARROWaBLUE HEARTaGREEN HEARTaYELLOW HEARTaPURPLE HEART
aHEART WITH RIBBONaREVOLVING HEARTSaHEART DECORATIONaDIAMOND SHAPE WITH A DOT INSIDE
aELECTRIC LIGHT BULBaANGER SYMBOLaBOMBaSLEEPING SYMBOLaCOLLISION SYMBOLaSPLASHING SWEAT SYMBOL
aDROPLETaDASH SYMBOLaPILE OF POOaFLEXED BICEPSaDIZZY SYMBOLaSPEECH BALLOONaTHOUGHT BALLOON
aWHITE FLOWERaHUNDRED POINTS SYMBOLaMONEY BAGaCURRENCY EXCHANGEaHEAVY DOLLAR SIGNaCREDIT CARD
aBANKNOTE WITH YEN SIGNcDOLLAR SIGNcEURO SIGNcPOUND SIGNaMONEY WITH WINGS
aCHART WITH UPWARDS TREND AND YEN SIGNaSEATaPERSONAL COMPUTERaBRIEFCASEaMINIDISCaFLOPPY DISK
aOPTICAL DISCaDVDaFILE FOLDERaOPEN FILE FOLDERaPAGE WITH CURLbFACING UPaCALENDAR
aTEAR-OFF CALENDARaCARD INDEXaCHART WITH UPWARDS TRENDcDOWNWARDS TRENDaBAR CHARTaCLIPBOARD
aPUSHPINaROUND PUSHPINaPAPERCLIPaSTRAIGHT RULERaTRIANGULAR RULERaBOOKMARK TABSaLEDGERaNOTEBOOK
bWITH DECORATIVE COVERaCLOSED BOOKaOPEN BOOKaGREEN BOOKaBLUE BOOKaORANGE BOOKaBOOKSaNAME BADGE
aSCROLLaMEMOaTELEPHONE RECEIVERaPAGERaFAX MACHINEaSATELLITE ANTENNAaPUBLIC ADDRESS LOUDSPEAKER
aCHEERING MEGAPHONEaOUTBOX TRAYaINBOX TRAYaPACKAGEaE-MAIL SYMBOLaINCOMING ENVELOPE
aENVELOPE WITH DOWNWARDS ARROW ABOVEaCLOSED MAILBOX WITH LOWERED FLAGdRAISED FLAG
aOPEN MAILBOX WITH RAISED FLAGdLOWERED FLAGaPOSTBOXaPOSTAL HORNaNEWSPAPERaMOBILE PHONE
cWITH RIGHTWARDS ARROW AT LEFTaVIBRATION MODEaMOBILE PHONE OFFaNO MOBILE PHONES
aANTENNA WITH BARSaCAMERAbWITH FLASHaVIDEO CAMERAaTELEVISIONaRADIOaVIDEOCASSETTEaFILM PROJECTOR
aPORTABLE STEREOaPRAYER BEADSaTWISTED RIGHTWARDS ARROWS
aCLOCKWISE RIGHTWARDS AND LEFTWARDS OPEN CIRCLE ARROWShWITH CIRCLED ONE OVERLAY
bDOWNWARDS AND UPWARDS OPEN CIRCLE ARROWSaANTICLOCKWISE DOWNWARDS AND UPWARDS OPEN CIRCLE ARROWS
aLOW BRIGHTNESS SYMBOLaHIGH BRIGHTNESS SYMBOLaSPEAKER WITH CANCELLATION STROKEb
bWITH ONE SOUND WAVEcTHREE SOUND WAVESaBATTERYaELECTRIC PLUGaLEFT-POINTING MAGNIFYING GLASS
aRIGHT-POINTING MAGNIFYING GLASSaLOCK WITH INK PENaCLOSED LOCK WITH KEYaKEYaLOCKaOPEN LOCKaBELL
bWITH CANCELLATION STROKEaBOOKMARKaLINK SYMBOLaRADIO BUTTONaBACK WITH LEFTWARDS ARROW ABOVE
aEND WITH LEFTWARDS ARROW ABOVEaON WITH EXCLAMATION MARK WITH LEFT RIGHT ARROW ABOVE
aSOON WITH RIGHTWARDS ARROW ABOVEaTOP WITH UPWARDS ARROW ABOVEaNO ONE UNDER EIGHTEEN SYMBOL
aKEYCAP TENaINPUT SYMBOL FOR LATIN CAPITAL LETTERSeSMALL LETTERSdNUMBERSdSYMBOLSdLATIN LETTERS
aFIREaELECTRIC TORCHaWRENCHaHAMMERaNUT AND BOLTaHOCHOaPISTOLaMICROSCOPEaTELESCOPEaCRYSTAL BALL
aSIX POINTED STAR WITH MIDDLE DOTaJAPANESE SYMBOL FOR BEGINNERaTRIDENT EMBLEM
aBLACK SQUARE BUTTONaWHITE SQUARE BUTTONaLARGE RED CIRCLEbBLUE CIRCLEbORANGE DIAMOND
bBLUE DIAMONDaSMALL ORANGE DIAMONDbBLUE DIAMONDaUP-POINTING RED TRIANGLE
aDOWN-POINTING RED TRIANGLEaUP-POINTING SMALL RED TRIANGLEaDOWN-POINTING SMALL RED TRIANGLE
aLOWER RIGHT SHADOWED WHITE CIRCLEaUPPER RIGHT SHADOWED WHITE CIRCLEaCIRCLED CROSS POMMEE
aCROSS POMMEE WITH HALF-CIRCLE BELOWcaNOTCHED LEFT SEMICIRCLE WITH THREE DOTS
bRIGHT SEMICIRCLE WITH THREE DOTSaSYMBOL FOR MARKS CHAPTERaWHITE LATIN CROSSaHEAVY LATIN CROSS
aCELTIC CROSSaOM SYMBOLaDOVE OF PEACEaKAABAaMOSQUEaSYNAGOGUEaMENORAH WITH NINE BRANCHES
aBOWL OF HYGIEIAaCLOCK FACE ONE OCLOCKcTWO OCLOCKcTHREE OCLOCKcFOUR OCLOCKcFIVE OCLOCK
cSIX OCLOCKcSEVEN OCLOCKcEIGHT OCLOCKcNINE OCLOCKcTEN OCLOCKcELEVEN OCLOCKcTWELVE OCLOCK
cONE-THIRTYcTWO-THIRTYcTHREE-THIRTYcFOUR-THIRTYcFIVE-THIRTYcSIX-THIRTYcSEVEN-THIRTYcEIGHT-THIRTY
cNINE-THIRTYcTEN-THIRTYcELEVEN-THIRTYcTWELVE-THIRTYaRIGHT SPEAKERcWITH ONE SOUND WAVE
dTHREE SOUND WAVESaBULLHORNbWITH SOUND WAVESaRINGING BELLaBOOKaCANDLEaMANTELPIECE CLOCK
aBLACK SKULL AND CROSSBONESaNO PIRACYaHOLEaMAN IN BUSINESS SUIT LEVITATINGaSLEUTH OR SPY
aDARK SUNGLASSESaSPIDERbWEBaJOYSTICKaMAN DANCINGaLEFT HAND TELEPHONE RECEIVER
aTELEPHONE RECEIVER WITH PAGEaRIGHT HAND TELEPHONE RECEIVERaWHITE TOUCHTONE TELEPHONE
aBLACK TOUCHTONE TELEPHONEaTELEPHONE ON TOP OF MODEMaCLAMSHELL MOBILE PHONEaBACK OF ENVELOPE
aSTAMPED ENVELOPEaENVELOPE WITH LIGHTNINGaFLYING ENVELOPEaPEN OVER STAMPED ENVELOPE
aLINKED PAPERCLIPSaBLACK PUSHPINaLOWER LEFT PENCILcBALLPOINT PENcFOUNTAIN PENcPAINTBRUSHcCRAYON
aLEFT WRITING HANDaTURNED OK HAND SIGNaRAISED HAND WITH FINGERS SPLAYED
aREVERSED RAISED HAND WITH FINGERS SPLAYEDbTHUMBS UP SIGNcDOWN SIGNbVICTORY HAND
bHAND WITH MIDDLE FINGER EXTENDEDaRAISED HAND WITH PART BETWEEN MIDDLE AND RING FINGERS
aWHITE DOWN POINTING LEFT HAND INDEXaSIDEWAYS WHITE LEFT POINTING INDEXcRIGHT POINTING INDEX
bBLACK LEFT POINTING INDEXcRIGHT POINTING INDEXaBLACK LEFT POINTING BACKHAND INDEX
bRIGHT POINTING BACKHAND INDEXaSIDEWAYS WHITE UP POINTING INDEXcDOWN POINTING INDEX
bBLACK UP POINTING INDEXcDOWN POINTING INDEXaBLACK UP POINTING BACKHAND INDEX
bDOWN POINTING BACKHAND INDEXbHEARTaDESKTOP COMPUTERaKEYBOARD AND MOUSE
aTHREE NETWORKED COMPUTERSaPRINTERaPOCKET CALCULATORaBLACK HARD SHELL FLOPPY DISK
aWHITE HARD SHELL FLOPPY DISKaSOFT SHELL FLOPPY DISKaTAPE CARTRIDGEaWIRED KEYBOARD
aONE BUTTON MOUSEaTWO BUTTON MOUSEaTHREE BUTTON MOUSEaTRACKBALLaOLD PERSONAL COMPUTERaHARD DISK
aSCREENaPRINTER ICONaFAX ICONaOPTICAL DISC ICONaDOCUMENT WITH TEXTdAND PICTUREcPICTURE
aFRAME WITH PICTUREcTILEScAN XaBLACK FOLDERaFOLDERaOPEN FOLDERaCARD INDEX DIVIDERSbFILE BOX
aFILE CABINETaEMPTY NOTEcPAGEcPADaNOTEbPAGEbPADaEMPTY DOCUMENTbPAGEbPAGESaDOCUMENTaPAGEaPAGES
aWASTEBASKETaSPIRAL NOTE PADbCALENDAR PADaDESKTOP WINDOWaMINIMIZEaMAXIMIZEaOVERLAP
aCLOCKWISE RIGHT AND LEFT SEMICIRCLE ARROWSaCANCELLATION XaINCREASE FONT SIZE SYMBOL
aDECREASE FONT SIZE SYMBOLaCOMPRESSIONaOLD KEYaROLLED-UP NEWSPAPERaPAGE WITH CIRCLED TEXT
aSTOCK CHARTaDAGGER KNIFEaLIPSaSPEAKING HEAD IN SILHOUETTEaTHREE RAYS ABOVEcBELOWcLEFTcRIGHT
aLEFT SPEECH BUBBLEaRIGHT SPEECH BUBBLEaTWO SPEECH BUBBLESaTHREE SPEECH BUBBLES
aLEFT THOUGHT BUBBLEaRIGHT THOUGHT BUBBLEaLEFT ANGER BUBBLEaRIGHT ANGER BUBBLEaMOOD BUBBLE
aLIGHTNING MOOD BUBBLEcaBALLOT BOX WITH BALLOTbSCRIPT XbBOX WITH SCRIPT XbBOLD SCRIPT X
bBOX WITH BOLD SCRIPT XaLIGHT CHECK MARKaBALLOT BOX WITH BOLD CHECKaWORLD MAPaMOUNT FUJI
aTOKYO TOWERaSTATUE OF LIBERTYaSILHOUETTE OF JAPANaMOYAIaGRINNING FACEcWITH SMILING EYES
aFACE WITH TEARS OF JOYaSMILING FACE WITH OPEN MOUTHfAND SMILING EYESgCOLD SWEAT
gTIGHTLY-CLOSED EYESdHALOdHORNSaWINKING FACEaSMILING FACE WITH SMILING EYES
aFACE SAVOURING DELICIOUS FOODaRELIEVED FACEaSMILING FACE WITH HEART-SHAPED EYESdSUNGLASSES
aSMIRKING FACEaNEUTRAL FACEaEXPRESSIONLESS FACEaUNAMUSED FACEaFACE WITH COLD SWEATaPENSIVE FACE
aCONFUSED FACEaCONFOUNDED FACEaKISSING FACEaFACE THROWING A KISSaKISSING FACE WITH SMILING EYES
dCLOSED EYESaFACE WITH STUCK-OUT TONGUEeAND WINKING EYEfTIGHTLY-CLOSED EYESaDISAPPOINTED FACE
aWORRIED FACEaANGRY FACEaPOUTING FACEaCRYING FACEaPERSEVERING FACEaFACE WITH LOOK OF TRIUMPH
aDISAPPOINTED BUT RELIEVED FACEaFROWNING FACE WITH OPEN MOUTHaANGUISHED FACEaFEARFUL FACE
aWEARY FACEaSLEEPY FACEaTIRED FACEaGRIMACING FACEaLOUDLY CRYING FACEaFACE WITH OPEN MOUTH
aHUSHED FACEaFACE WITH OPEN MOUTH AND COLD SWEATbSCREAMING IN FEARaASTONISHED FACEaFLUSHED FACE
aSLEEPING FACEaDIZZY FACEaFACE WITHOUT MOUTHbWITH MEDICAL MASK
aGRINNING CAT FACE WITH SMILING EYESaCAT FACE WITH TEARS OF JOYaSMILING CAT FACE WITH OPEN MOUTH
eHEART-SHAPED EYESaCAT FACE WITH WRY SMILEaKISSING CAT FACE WITH CLOSED EYESaPOUTING CAT FACE
aCRYING CAT FACEaWEARY CAT FACEaSLIGHTLY FROWNING FACEbSMILING FACEaUPSIDE-DOWN FACE
aFACE WITH ROLLING EYEScNO GOOD GESTUREcOK GESTUREaPERSON BOWING DEEPLYaSEE-NO-EVIL MONKEY
aHEAR-NO-EVIL MONKEYaSPEAK-NO-EVIL MONKEYaHAPPY PERSON RAISING ONE HAND
aPERSON RAISING BOTH HANDS IN CELEBRATIONbFROWNINGbWITH POUTING FACEcFOLDED HANDS
aNORTH WEST POINTING LEAFaSOUTH WEST POINTING LEAFaNORTH EAST POINTING LEAF
aSOUTH EAST POINTING LEAFaTURNED NORTH WEST POINTING LEAFbSOUTH WEST POINTING LEAF
bNORTH EAST POINTING LEAFbSOUTH EAST POINTING LEAFaNORTH WEST POINTING VINE LEAF
aSOUTH WEST POINTING VINE LEAFaNORTH EAST POINTING VINE LEAFaSOUTH EAST POINTING VINE LEAF
aHEAVY NORTH WEST POINTING VINE LEAFbSOUTH WEST POINTING VINE LEAFbNORTH EAST POINTING VINE LEAF
bSOUTH EAST POINTING VINE LEAFaNORTH WEST POINTING BUDaSOUTH WEST POINTING BUD
aNORTH EAST POINTING BUDaSOUTH EAST POINTING BUDaHEAVY NORTH WEST POINTING BUD
bSOUTH WEST POINTING BUDbNORTH EAST POINTING BUDbSOUTH EAST POINTING BUD
aHOLLOW QUILT SQUARE ORNAMENTeIN BLACK SQUAREaSOLID QUILT SQUARE ORNAMENTeIN BLACK SQUARE
aLEFTWARDS ROCKETaUPWARDS ROCKETaRIGHTWARDS ROCKETaDOWNWARDS ROCKETaSCRIPT LIGATURE ET ORNAMENT
aHEAVY SCRIPT LIGATURE ET ORNAMENTaLIGATURE OPEN ET ORNAMENTaHEAVY LIGATURE OPEN ET ORNAMENT
bAMPERSAND ORNAMENTaSWASH AMPERSAND ORNAMENT
aSANS-SERIF HEAVY DOUBLE TURNED COMMA QUOTATION MARK ORNAMENTdCOMMA QUOTATION MARK ORNAMENT
cLOW DOUBLE COMMA QUOTATION MARK ORNAMENTaHEAVY INTERROBANG ORNAMENT
aSANS-SERIF INTERROBANG ORNAMENTaHEAVY SANS-SERIF INTERROBANG ORNAMENTaVERY HEAVY SOLIDUS
cREVERSE SOLIDUSaCHECKER BOARDaREVERSE CHECKER BOARDaROCKETaHELICOPTERaSTEAM LOCOMOTIVE
aRAILWAY CARaHIGH-SPEED TRAINcWITH BULLET NOSEaTRAINaMETROaLIGHT RAILaSTATIONaTRAMbCARaBUS
aONCOMING BUSaTROLLEYBUSaBUS STOPaMINIBUSaAMBULANCEaFIRE ENGINEaPOLICE CARaONCOMING POLICE CAR
aTAXIaONCOMING TAXIaAUTOMOBILEaONCOMING AUTOMOBILEaRECREATIONAL VEHICLEaDELIVERY TRUCK
aARTICULATED LORRYaTRACTORaMONORAILaMOUNTAIN RAILWAYaSUSPENSION RAILWAYaMOUNTAIN CABLEWAY
aAERIAL TRAMWAYaSHIPaROWBOATaSPEEDBOATaHORIZONTAL TRAFFIC LIGHTaVERTICAL TRAFFIC LIGHT
aCONSTRUCTION SIGNaPOLICE CARS REVOLVING LIGHTaTRIANGULAR FLAG ON POSTaDOORaNO ENTRY SIGN
aSMOKING SYMBOLaNO SMOKING SYMBOLaPUT LITTER IN ITS PLACE SYMBOLaDO NOT LITTER SYMBOL
aPOTABLE WATER SYMBOLaNON-POTABLE WATER SYMBOLaBICYCLEaNO BICYCLESaBICYCLISTaMOUNTAIN BICYCLIST
aPEDESTRIANaNO PEDESTRIANSaCHILDREN CROSSINGaMENS SYMBOLaWOMENS SYMBOLaRESTROOMaBABY SYMBOL
aTOILETaWATER CLOSETaSHOWERaBATHaBATHTUBaPASSPORT CONTROLaCUSTOMSaBAGGAGE CLAIMaLEFT LUGGAGE
aTRIANGLE WITH ROUNDED CORNERSaPROHIBITED SIGNaCIRCLED INFORMATION SOURCEaBOYS SYMBOL
aGIRLS SYMBOLaCOUCH AND LAMPaSLEEPING ACCOMMODATIONaSHOPPING BAGSaBELLHOP BELLaBED
aPLACE OF WORSHIPaOCTAGONAL SIGNaSHOPPING TROLLEYaSTUPAaPAGODAaHINDU TEMPLEaHUTaELEVATOR"),
  (0x1F6DD, "aPLAYGROUND SLIDEaWHEELaRING BUOYaHAMMER AND WRENCHaSHIELDaOIL DRUMaMOTORWAY
aRAILWAY TRACKaMOTOR BOATaUP-POINTING MILITARY AIRPLANEbAIRPLANEbSMALL AIRPLANEaSMALL AIRPLANE
aNORTHEAST-POINTING AIRPLANEaAIRPLANE DEPARTUREbARRIVING"),
  (0x1F6F0, "aSATELLITEaONCOMING FIRE ENGINEaDIESEL LOCOMOTIVEaPASSENGER SHIPaSCOOTER
aMOTOR SCOOTERaCANOEaSLEDaFLYING SAUCERaSKATEBOARDaAUTO RICKSHAWaPICKUP TRUCKaROLLER SKATE"),
  (0x1F700, "aALCHEMICAL SYMBOL FOR QUINTESSENCEdAIRdFIREdEARTHdWATERdAQUAFORTISdAQUA REGIA
eREGIA-2eVITAEeVITAE-2dVINEGARdVINEGAR-2dVINEGAR-3dSULFURdPHILOSOPHERS SULFURdBLACK SULFUR
dMERCURY SUBLIMATEeSUBLIMATE-2eSUBLIMATE-3dCINNABARdSALTdNITREdVITRIOLdVITRIOL-2dROCK SALT
eSALT-2dGOLDdSILVERdIRON OREeORE-2dCROCUS OF IRONdREGULUS OF IRONdCOPPER OREdIRON-COPPER ORE
dSUBLIMATE OF COPPERdCROCUS OF COPPERfCOPPER-2dCOPPER ANTIMONIATEdSALT OF COPPER ANTIMONIATE
dSUBLIMATE OF SALT OF COPPERdVERDIGRISdTIN OREdLEAD OREdANTIMONY OREdSUBLIMATE OF ANTIMONY
dSALT OF ANTIMONYdSUBLIMATE OF SALT OF ANTIMONYdVINEGAR OF ANTIMONYdREGULUS OF ANTIMONY
fANTIMONY-2edREGULUS-2dREGULUS-3dREGULUS-4dALKALIdALKALI-2dMARCASITEdSAL-AMMONIACdARSENIC
dREALGARdREALGAR-2dAURIPIGMENTdBISMUTH OREdTARTARdTARTAR-2dQUICK LIMEdBORAXdBORAX-2dBORAX-3dALUM
dOILdSPIRITdTINCTUREdGUMdWAXdPOWDERdCALXdTUTTYdCAPUT MORTUUMdSCEPTER OF JOVEdCADUCEUSdTRIDENT
dSTARRED TRIDENTdLODESTONEdSOAPdURINEdHORSE DUNGdASHESdPOT ASHESdBRICKdPOWDERED BRICKdAMALGAM
dSTRATUM SUPER STRATUMfSTRATUM-2dSUBLIMATIONdPRECIPITATEdDISTILLdDISSOLVEdDISSOLVE-2dPURIFY
dPUTREFACTIONdCRUCIBLEdCRUCIBLE-2dCRUCIBLE-3dCRUCIBLE-4dCRUCIBLE-5dALEMBICdBATH OF MARYfVAPOURS
dRETORTdHOURdNIGHTdDAY-NIGHTdMONTHdHALF DRAMeOUNCE"),
  (0x1F780, "aBLACK LEFT-POINTING ISOSCELES RIGHT TRIANGLEbUP-POINTING ISOSCELES RIGHT TRIANGLE
bRIGHT-POINTING ISOSCELES RIGHT TRIANGLEbDOWN-POINTING ISOSCELES RIGHT TRIANGLE
bSLIGHTLY SMALL CIRCLEaMEDIUM BOLD WHITE CIRCLEaBOLD WHITE CIRCLEaHEAVY WHITE CIRCLE
aVERY HEAVY WHITE CIRCLEaEXTREMELY HEAVY WHITE CIRCLEaWHITE CIRCLE CONTAINING BLACK SMALL CIRCLE
aROUND TARGETaBLACK TINY SQUAREbSLIGHTLY SMALL SQUAREaLIGHT WHITE SQUAREaMEDIUM WHITE SQUARE
aBOLD WHITE SQUAREaHEAVY WHITE SQUAREaVERY HEAVY WHITE SQUAREaEXTREMELY HEAVY WHITE SQUARE
aWHITE SQUARE CONTAINING BLACK VERY SMALL SQUAREeMEDIUM SQUAREaSQUARE TARGETaBLACK TINY DIAMOND
bVERY SMALL DIAMONDbMEDIUM SMALL DIAMONDaWHITE DIAMOND CONTAINING BLACK VERY SMALL DIAMOND
eMEDIUM DIAMONDaDIAMOND TARGETaBLACK TINY LOZENGEbVERY SMALL LOZENGEbMEDIUM SMALL LOZENGE
aWHITE LOZENGE CONTAINING BLACK SMALL LOZENGEaTHIN GREEK CROSSaLIGHT GREEK CROSS
aMEDIUM GREEK CROSSaBOLD GREEK CROSSaVERY BOLD GREEK CROSSbHEAVY GREEK CROSS
aEXTREMELY HEAVY GREEK CROSSaTHIN SALTIREaLIGHT SALTIREaMEDIUM SALTIREaBOLD SALTIRE
aHEAVY SALTIREaVERY HEAVY SALTIREaEXTREMELY HEAVY SALTIREaLIGHT FIVE SPOKED ASTERISK
aMEDIUM FIVE SPOKED ASTERISKaBOLD FIVE SPOKED ASTERISKaHEAVY FIVE SPOKED ASTERISK
aVERY HEAVY FIVE SPOKED ASTERISKaEXTREMELY HEAVY FIVE SPOKED ASTERISKaLIGHT SIX SPOKED ASTERISK
aMEDIUM SIX SPOKED ASTERISKaBOLD SIX SPOKED ASTERISKaHEAVY SIX SPOKED ASTERISK
aVERY HEAVY SIX SPOKED ASTERISKaEXTREMELY HEAVY SIX SPOKED ASTERISKaLIGHT EIGHT SPOKED ASTERISK
aMEDIUM EIGHT SPOKED ASTERISKaBOLD EIGHT SPOKED ASTERISKaHEAVY EIGHT SPOKED ASTERISK
aVERY HEAVY EIGHT SPOKED ASTERISKaLIGHT THREE POINTED BLACK STARaMEDIUM THREE POINTED BLACK STAR
aTHREE POINTED BLACK STARaMEDIUM THREE POINTED PINWHEEL STARaLIGHT FOUR POINTED BLACK STAR
aMEDIUM FOUR POINTED BLACK STARaFOUR POINTED BLACK STARaMEDIUM FOUR POINTED PINWHEEL STAR
aREVERSE LIGHT FOUR POINTED PINWHEEL STARaLIGHT FIVE POINTED BLACK STAR
aHEAVY FIVE POINTED BLACK STARaMEDIUM SIX POINTED BLACK STARaHEAVY SIX POINTED BLACK STAR
aSIX POINTED PINWHEEL STARaMEDIUM EIGHT POINTED BLACK STARaHEAVY EIGHT POINTED BLACK STAR
aVERY HEAVY EIGHT POINTED BLACK STARaHEAVY EIGHT POINTED PINWHEEL STAR
aLIGHT TWELVE POINTED BLACK STARaHEAVY TWELVE POINTED BLACK STARdPINWHEEL STARaCIRCLED TRIANGLE
aNEGATIVE CIRCLED TRIANGLEaCIRCLED SQUAREaNEGATIVE CIRCLED SQUARE"),
  (0x1F7E0, "aLARGE ORANGE CIRCLEbYELLOW CIRCLEbGREEN CIRCLEbPURPLE CIRCLEbBROWN CIRCLE
bRED SQUAREbBLUE SQUAREbORANGE SQUAREbYELLOW SQUAREbGREEN SQUAREbPURPLE SQUAREbBROWN SQUARE"),
  (0x1F7F0, "aHEAVY EQUALS SIGN"),
  (0x1F800, "aLEFTWARDS ARROW WITH SMALL TRIANGLE ARROWHEAD
aUPWARDS ARROW WITH SMALL TRIANGLE ARROWHEADaRIGHTWARDS ARROW WITH SMALL TRIANGLE ARROWHEAD
aDOWNWARDS ARROW WITH SMALL TRIANGLE ARROWHEADaLEFTWARDS ARROW WITH MEDIUM TRIANGLE ARROWHEAD
aUPWARDS ARROW WITH MEDIUM TRIANGLE ARROWHEADaRIGHTWARDS ARROW WITH MEDIUM TRIANGLE ARROWHEAD
aDOWNWARDS ARROW WITH MEDIUM TRIANGLE ARROWHEADaLEFTWARDS ARROW WITH LARGE TRIANGLE ARROWHEAD
aUPWARDS ARROW WITH LARGE TRIANGLE ARROWHEADaRIGHTWARDS ARROW WITH LARGE TRIANGLE ARROWHEAD
aDOWNWARDS ARROW WITH LARGE TRIANGLE ARROWHEAD"),
  (0x1F810, "aLEFTWARDS ARROW WITH SMALL EQUILATERAL ARROWHEAD
aUPWARDS ARROW WITH SMALL EQUILATERAL ARROWHEAD
aRIGHTWARDS ARROW WITH SMALL EQUILATERAL ARROWHEAD
aDOWNWARDS ARROW WITH SMALL EQUILATERAL ARROWHEADaLEFTWARDS ARROW WITH EQUILATERAL ARROWHEAD
aUPWARDS ARROW WITH EQUILATERAL ARROWHEADaRIGHTWARDS ARROW WITH EQUILATERAL ARROWHEAD
aDOWNWARDS ARROW WITH EQUILATERAL ARROWHEADaHEAVY LEFTWARDS ARROW WITH EQUILATERAL ARROWHEAD
bUPWARDS ARROW WITH EQUILATERAL ARROWHEADbRIGHTWARDS ARROW WITH EQUILATERAL ARROWHEAD
bDOWNWARDS ARROW WITH EQUILATERAL ARROWHEADbLEFTWARDS ARROW WITH LARGE EQUILATERAL ARROWHEAD
bUPWARDS ARROW WITH LARGE EQUILATERAL ARROWHEAD
bRIGHTWARDS ARROW WITH LARGE EQUILATERAL ARROWHEAD
bDOWNWARDS ARROW WITH LARGE EQUILATERAL ARROWHEAD
aLEFTWARDS TRIANGLE-HEADED ARROW WITH NARROW SHAFT
aUPWARDS TRIANGLE-HEADED ARROW WITH NARROW SHAFT
aRIGHTWARDS TRIANGLE-HEADED ARROW WITH NARROW SHAFT
aDOWNWARDS TRIANGLE-HEADED ARROW WITH NARROW SHAFT
aLEFTWARDS TRIANGLE-HEADED ARROW WITH MEDIUM SHAFT
aUPWARDS TRIANGLE-HEADED ARROW WITH MEDIUM SHAFT
aRIGHTWARDS TRIANGLE-HEADED ARROW WITH MEDIUM SHAFT
aDOWNWARDS TRIANGLE-HEADED ARROW WITH MEDIUM SHAFT
aLEFTWARDS TRIANGLE-HEADED ARROW WITH BOLD SHAFTaUPWARDS TRIANGLE-HEADED ARROW WITH BOLD SHAFT
aRIGHTWARDS TRIANGLE-HEADED ARROW WITH BOLD SHAFT
aDOWNWARDS TRIANGLE-HEADED ARROW WITH BOLD SHAFT
aLEFTWARDS TRIANGLE-HEADED ARROW WITH HEAVY SHAFTaUPWARDS TRIANGLE-HEADED ARROW WITH HEAVY SHAFT
aRIGHTWARDS TRIANGLE-HEADED ARROW WITH HEAVY SHAFT
aDOWNWARDS TRIANGLE-HEADED ARROW WITH HEAVY SHAFT
aLEFTWARDS TRIANGLE-HEADED ARROW WITH VERY HEAVY SHAFT
aUPWARDS TRIANGLE-HEADED ARROW WITH VERY HEAVY SHAFT
aRIGHTWARDS TRIANGLE-HEADED ARROW WITH VERY HEAVY SHAFT
aDOWNWARDS TRIANGLE-HEADED ARROW WITH VERY HEAVY SHAFTaLEFTWARDS FINGER-POST ARROW
aUPWARDS FINGER-POST ARROWaRIGHTWARDS FINGER-POST ARROWaDOWNWARDS FINGER-POST ARROW
aLEFTWARDS SQUARED ARROWaUPWARDS SQUARED ARROWaRIGHTWARDS SQUARED ARROWaDOWNWARDS SQUARED ARROW
aLEFTWARDS COMPRESSED ARROWaUPWARDS COMPRESSED ARROWaRIGHTWARDS COMPRESSED ARROW
aDOWNWARDS COMPRESSED ARROWaLEFTWARDS HEAVY COMPRESSED ARROWaUPWARDS HEAVY COMPRESSED ARROW
aRIGHTWARDS HEAVY COMPRESSED ARROWaDOWNWARDS HEAVY COMPRESSED ARROWaLEFTWARDS HEAVY ARROW
aUPWARDS HEAVY ARROWaRIGHTWARDS HEAVY ARROWaDOWNWARDS HEAVY ARROW"),
  (0x1F850, "aLEFTWARDS SANS-SERIF ARROWaUPWARDS SANS-SERIF ARROWaRIGHTWARDS SANS-SERIF ARROW
aDOWNWARDS SANS-SERIF ARROWaNORTH WEST SANS-SERIF ARROWbEAST SANS-SERIF ARROW
aSOUTH EAST SANS-SERIF ARROWbWEST SANS-SERIF ARROWaLEFT RIGHT SANS-SERIF ARROW
aUP DOWN SANS-SERIF ARROW"),
  (0x1F860, "aWIDE-HEADED LEFTWARDS LIGHT BARB ARROWbUPWARDS LIGHT BARB ARROW
bRIGHTWARDS LIGHT BARB ARROWbDOWNWARDS LIGHT BARB ARROWbNORTH WEST LIGHT BARB ARROW
cEAST LIGHT BARB ARROWbSOUTH EAST LIGHT BARB ARROWcWEST LIGHT BARB ARROWbLEFTWARDS BARB ARROW
bUPWARDS BARB ARROWbRIGHTWARDS BARB ARROWbDOWNWARDS BARB ARROWbNORTH WEST BARB ARROW
cEAST BARB ARROWbSOUTH EAST BARB ARROWcWEST BARB ARROWbLEFTWARDS MEDIUM BARB ARROW
bUPWARDS MEDIUM BARB ARROWbRIGHTWARDS MEDIUM BARB ARROWbDOWNWARDS MEDIUM BARB ARROW
bNORTH WEST MEDIUM BARB ARROWcEAST MEDIUM BARB ARROWbSOUTH EAST MEDIUM BARB ARROW
cWEST MEDIUM BARB ARROWbLEFTWARDS HEAVY BARB ARROWbUPWARDS HEAVY BARB ARROW
bRIGHTWARDS HEAVY BARB ARROWbDOWNWARDS HEAVY BARB ARROWbNORTH WEST HEAVY BARB ARROW
cEAST HEAVY BARB ARROWbSOUTH EAST HEAVY BARB ARROWcWEST HEAVY BARB ARROW
bLEFTWARDS VERY HEAVY BARB ARROWbUPWARDS VERY HEAVY BARB ARROWbRIGHTWARDS VERY HEAVY BARB ARROW
bDOWNWARDS VERY HEAVY BARB ARROWbNORTH WEST VERY HEAVY BARB ARROWcEAST VERY HEAVY BARB ARROW
bSOUTH EAST VERY HEAVY BARB ARROWcWEST VERY HEAVY BARB ARROW"),
  (0x1F890, "aLEFTWARDS TRIANGLE ARROWHEADaUPWARDS TRIANGLE ARROWHEAD
aRIGHTWARDS TRIANGLE ARROWHEADaDOWNWARDS TRIANGLE ARROWHEAD
aLEFTWARDS WHITE ARROW WITHIN TRIANGLE ARROWHEADaUPWARDS WHITE ARROW WITHIN TRIANGLE ARROWHEAD
aRIGHTWARDS WHITE ARROW WITHIN TRIANGLE ARROWHEAD
aDOWNWARDS WHITE ARROW WITHIN TRIANGLE ARROWHEADaLEFTWARDS ARROW WITH NOTCHED TAIL
aUPWARDS ARROW WITH NOTCHED TAILaRIGHTWARDS ARROW WITH NOTCHED TAIL
aDOWNWARDS ARROW WITH NOTCHED TAILaHEAVY ARROW SHAFT WIDTH ONEeTWO THIRDSeONE HALFfTHIRD
aLEFTWARDS BOTTOM-SHADED WHITE ARROWaRIGHTWARDS BOTTOM SHADED WHITE ARROW
aLEFTWARDS TOP SHADED WHITE ARROWaRIGHTWARDS TOP SHADED WHITE ARROW
aLEFTWARDS LEFT-SHADED WHITE ARROWaRIGHTWARDS RIGHT-SHADED WHITE ARROW
aLEFTWARDS RIGHT-SHADED WHITE ARROWaRIGHTWARDS LEFT-SHADED WHITE ARROW
aLEFTWARDS BACK-TILTED SHADOWED WHITE ARROWaRIGHTWARDS BACK-TILTED SHADOWED WHITE ARROW
aLEFTWARDS FRONT-TILTED SHADOWED WHITE ARROWaRIGHTWARDS FRONT-TILTED SHADOWED WHITE ARROW
aWHITE ARROW SHAFT WIDTH ONEeTWO THIRDS"),
  (0x1F8B0, "aARROW POINTING UPWARDS THEN NORTH WESTcRIGHTWARDS THEN CURVING SOUTH WEST"),
  (0x1F900, "aCIRCLED CROSS FORMEE WITH FOUR DOTSeTWO DOTSdaLEFT HALF CIRCLE WITH FOUR DOTS
eTHREE DOTSeTWO DOTSeDOTdaDOWNWARD FACING HOOKcNOTCHED HOOKcHOOK WITH DOTcNOTCHED HOOK WITH DOT
aPINCHED FINGERSaWHITE HEARTaBROWN HEARTaPINCHING HANDaZIPPER-MOUTH FACEaMONEY-MOUTH FACE
aFACE WITH THERMOMETERaNERD FACEaTHINKING FACEaFACE WITH HEAD-BANDAGEaROBOT FACEaHUGGING FACE
aSIGN OF THE HORNSaCALL ME HANDaRAISED BACK OF HANDaLEFT-FACING FISTaRIGHT-FACING FISTaHANDSHAKE
aHAND WITH INDEX AND MIDDLE FINGERS CROSSEDaI LOVE YOU HAND SIGNaFACE WITH COWBOY HATaCLOWN FACE
aNAUSEATED FACEaROLLING ON THE FLOOR LAUGHINGaDROOLING FACEaLYING FACEaFACE PALMaSNEEZING FACE
aFACE WITH ONE EYEBROW RAISEDaGRINNING FACE WITH STAR EYESdONE LARGE AND ONE SMALL EYE
aFACE WITH FINGER COVERING CLOSED LIPSaSERIOUS FACE WITH SYMBOLS COVERING MOUTH
aSMILING FACE WITH SMILING EYES AND HAND COVERING MOUTHaFACE WITH OPEN MOUTH VOMITING
aSHOCKED FACE WITH EXPLODING HEADaPREGNANT WOMANaBREAST-FEEDINGaPALMS UP TOGETHERaSELFIEaPRINCE
aMAN IN TUXEDOaMOTHER CHRISTMASaSHRUGaPERSON DOING CARTWHEELaJUGGLINGaFENCERaMODERN PENTATHLON
aWRESTLERSaWATER POLOaHANDBALLaDIVING MASKaWILTED FLOWERaDRUM WITH DRUMSTICKSaCLINKING GLASSES
aTUMBLER GLASSaSPOONaGOAL NETaRIFLEaFIRST PLACE MEDALaSECOND PLACE MEDALaTHIRD PLACE MEDAL
aBOXING GLOVEaMARTIAL ARTS UNIFORMaCURLING STONEaLACROSSE STICK AND BALLaSOFTBALLaFLYING DISC
aCROISSANTaAVOCADOaCUCUMBERaBACONaPOTATOaCARROTaBAGUETTE BREADaGREEN SALADaSHALLOW PAN OF FOOD
aSTUFFED FLATBREADaEGGaGLASS OF MILKaPEANUTSaKIWIFRUITaPANCAKESaDUMPLINGaFORTUNE COOKIE
aTAKEOUT BOXaCHOPSTICKSaBOWL WITH SPOONaCUP WITH STRAWaCOCONUTaBROCCOLIaPIEaPRETZELaCUT OF MEAT
aSANDWICHaCANNED FOODaLEAFY GREENaMANGOaMOON CAKEaBAGEL
aSMILING FACE WITH SMILING EYES AND THREE HEARTSaYAWNING FACEaSMILING FACE WITH TEAR
aFACE WITH PARTY HORN AND PARTY HATcUNEVEN EYES AND WAVY MOUTHaOVERHEATED FACEaFREEZING FACE
aNINJAaDISGUISED FACEaFACE HOLDING BACK TEARSbWITH PLEADING EYESaSARIaLAB COATaGOGGLES
aHIKING BOOTaFLAT SHOEaCRABaLION FACEaSCORPIONaTURKEYaUNICORN FACEaEAGLEaDUCKaBATaSHARKaOWL
aFOX FACEaBUTTERFLYaDEERaGORILLAaLIZARDaRHINOCEROSaSHRIMPaSQUIDaGIRAFFE FACEaZEBRA FACEaHEDGEHOG
aSAUROPODaT-REXaCRICKETaKANGAROOaLLAMAaPEACOCKaHIPPOPOTAMUSaPARROTaRACCOONaLOBSTERaMOSQUITO
aMICROBEaBADGERaSWANaMAMMOTHaDODOaSLOTHaOTTERaORANGUTANaSKUNKaFLAMINGOaOYSTERaBEAVERaBISONaSEAL
aGUIDE DOGaPROBING CANEaEMOJI COMPONENT RED HAIRcCURLY HAIRcBALDcWHITE HAIRaBONEaLEGaFOOTaTOOTH
aSUPERHEROaSUPERVILLAINaSAFETY VESTaEAR WITH HEARING AIDaMOTORIZED WHEELCHAIRaMANUAL WHEELCHAIR
aMECHANICAL ARMbLEGaCHEESE WEDGEaCUPCAKEaSALT SHAKERaBEVERAGE BOXaGARLICaONIONaFALAFELaWAFFLE
aBUTTERaMATE DRINKaICE CUBEaBUBBLE TEAaTROLLaSTANDING PERSONaKNEELING PERSONaDEAF PERSON
aFACE WITH MONOCLEaADULTaCHILDaOLDER ADULTaBEARDED PERSONaPERSON WITH HEADSCARFbIN STEAMY ROOM
bCLIMBINGbIN LOTUS POSITIONaMAGEaFAIRYaVAMPIREaMERPERSONaELFaGENIEaZOMBIEaBRAINaORANGE HEART
aBILLED CAPaSCARFaGLOVESaCOATaSOCKSaRED GIFT ENVELOPEaFIRECRACKERaJIGSAW PUZZLE PIECEaTEST TUBE
aPETRI DISHaDNA DOUBLE HELIXaCOMPASSaABACUSaFIRE EXTINGUISHERaTOOLBOXaBRICKaMAGNETaLUGGAGE
aLOTION BOTTLEaSPOOL OF THREADaBALL OF YARNaSAFETY PINaTEDDY BEARaBROOMaBASKETaROLL OF PAPER
aBAR OF SOAPaSPONGEaRECEIPTaNAZAR AMULETaNEUTRAL CHESS KINGcQUEENcROOKcBISHOPcKNIGHTcPAWN
aWHITE CHESS KNIGHT ROTATED FORTY-FIVE DEGREESaBLACK CHESS KNIGHT ROTATED FORTY-FIVE DEGREES
aNEUTRAL CHESS KNIGHT ROTATED FORTY-FIVE DEGREESaWHITE CHESS KING ROTATED NINETY DEGREES
cQUEEN ROTATED NINETY DEGREEScROOK ROTATED NINETY DEGREEScBISHOP ROTATED NINETY DEGREES
cKNIGHT ROTATED NINETY DEGREEScPAWN ROTATED NINETY DEGREES
aBLACK CHESS KING ROTATED NINETY DEGREEScQUEEN ROTATED NINETY DEGREES
cROOK ROTATED NINETY DEGREEScBISHOP ROTATED NINETY DEGREEScKNIGHT ROTATED NINETY DEGREES
cPAWN ROTATED NINETY DEGREESaNEUTRAL CHESS KING ROTATED NINETY DEGREES
cQUEEN ROTATED NINETY DEGREEScROOK ROTATED NINETY DEGREEScBISHOP ROTATED NINETY DEGREES
cKNIGHT ROTATED NINETY DEGREEScPAWN ROTATED NINETY DEGREES
aWHITE CHESS KNIGHT ROTATED ONE HUNDRED THIRTY-FIVE DEGREES
aBLACK CHESS KNIGHT ROTATED ONE HUNDRED THIRTY-FIVE DEGREES
aNEUTRAL CHESS KNIGHT ROTATED ONE HUNDRED THIRTY-FIVE DEGREESaWHITE CHESS TURNED KINGdQUEENdROOK
dBISHOPdKNIGHTdPAWNaBLACK CHESS TURNED KINGdQUEENdROOKdBISHOPdKNIGHTdPAWN
aNEUTRAL CHESS TURNED KINGdQUEENdROOKdBISHOPdKNIGHTdPAWN
aWHITE CHESS KNIGHT ROTATED TWO HUNDRED TWENTY-FIVE DEGREES
aBLACK CHESS KNIGHT ROTATED TWO HUNDRED TWENTY-FIVE DEGREES
aNEUTRAL CHESS KNIGHT ROTATED TWO HUNDRED TWENTY-FIVE DEGREES
aWHITE CHESS KING ROTATED TWO HUNDRED SEVENTY DEGREEScQUEEN ROTATED TWO HUNDRED SEVENTY DEGREES
cROOK ROTATED TWO HUNDRED SEVENTY DEGREEScBISHOP ROTATED TWO HUNDRED SEVENTY DEGREES
cKNIGHT ROTATED TWO HUNDRED SEVENTY DEGREEScPAWN ROTATED TWO HUNDRED SEVENTY DEGREES
aBLACK CHESS KING ROTATED TWO HUNDRED SEVENTY DEGREEScQUEEN ROTATED TWO HUNDRED SEVENTY DEGREES
cROOK ROTATED TWO HUNDRED SEVENTY DEGREEScBISHOP ROTATED TWO HUNDRED SEVENTY DEGREES
cKNIGHT ROTATED TWO HUNDRED SEVENTY DEGREEScPAWN ROTATED TWO HUNDRED SEVENTY DEGREES
aNEUTRAL CHESS KING ROTATED TWO HUNDRED SEVENTY DEGREES
cQUEEN ROTATED TWO HUNDRED SEVENTY DEGREEScROOK ROTATED TWO HUNDRED SEVENTY DEGREES
cBISHOP ROTATED TWO HUNDRED SEVENTY DEGREEScKNIGHT ROTATED TWO HUNDRED SEVENTY DEGREES
cPAWN ROTATED TWO HUNDRED SEVENTY DEGREES
aWHITE CHESS KNIGHT ROTATED THREE HUNDRED FIFTEEN DEGREES
aBLACK CHESS KNIGHT ROTATED THREE HUNDRED FIFTEEN DEGREES
aNEUTRAL CHESS KNIGHT ROTATED THREE HUNDRED FIFTEEN DEGREESaWHITE CHESS EQUIHOPPER
aBLACK CHESS EQUIHOPPERaNEUTRAL CHESS EQUIHOPPERaWHITE CHESS EQUIHOPPER ROTATED NINETY DEGREES
aBLACK CHESS EQUIHOPPER ROTATED NINETY DEGREESaNEUTRAL CHESS EQUIHOPPER ROTATED NINETY DEGREES
aWHITE CHESS KNIGHT-QUEENcKNIGHT-ROOKcKNIGHT-BISHOPaBLACK CHESS KNIGHT-QUEENcKNIGHT-ROOK
cKNIGHT-BISHOP"),
  (0x1FA60, "aXIANGQI RED GENERALcMANDARINcELEPHANTcHORSEcCHARIOTcCANNONcSOLDIERbBLACK GENERAL
cMANDARINcELEPHANTcHORSEcCHARIOTcCANNONcSOLDIER"),
  (0x1FA70, "aBALLET SHOESaONE-PIECE SWIMSUITaBRIEFSaSHORTSaTHONG SANDAL"),
  (0x1FA78, "aDROP OF BLOODaADHESIVE BANDAGEaSTETHOSCOPEaX-RAYaCRUTCH"),
  (0x1FA80, "aYO-YOaKITEaPARACHUTEaBOOMERANGaMAGIC WANDaPINATAaNESTING DOLLS"),
  (0x1FA90, "aRINGED PLANETaCHAIRaRAZORaAXEaDIYA LAMPaBANJOaMILITARY HELMETaACCORDIONaLONG DRUM
aCOINaCARPENTRY SAWaSCREWDRIVERaLADDERaHOOKaMIRRORaWINDOWaPLUNGERaSEWING NEEDLEaKNOTaBUCKET
aMOUSE TRAPaTOOTHBRUSHaHEADSTONEaPLACARDaROCKaMIRROR BALLaIDENTIFICATION CARDaLOW BATTERYaHAMSA"),
  (0x1FAB0, "aFLYaWORMaBEETLEaCOCKROACHaPOTTED PLANTaWOODaFEATHERaLOTUSaCORALaEMPTY NEST
aNEST WITH EGGS"),
  (0x1FAC0, "aANATOMICAL HEARTaLUNGSaPEOPLE HUGGINGaPREGNANT MANbPERSONaPERSON WITH CROWN"),
  (0x1FAD0, "aBLUEBERRIESaBELL PEPPERaOLIVEaFLATBREADaTAMALEaFONDUEaTEAPOTaPOURING LIQUIDaBEANS
aJAR"),
  (0x1FAE0, "aMELTING FACEaSALUTING FACEaFACE WITH OPEN EYES AND HAND OVER MOUTHcPEEKING EYE
cDIAGONAL MOUTHaDOTTED LINE FACEaBITING LIPaBUBBLES"),
  (0x1FAF0, "aHAND WITH INDEX FINGER AND THUMB CROSSEDaRIGHTWARDS HANDaLEFTWARDS HAND
aPALM DOWN HANDbUP HANDaINDEX POINTING AT THE VIEWERaHEART HANDS"),
  (0x1FB00, "aBLOCK SEXTANT-1bSEXTANT-2bSEXTANT-12bSEXTANT-3bSEXTANT-13bSEXTANT-23bSEXTANT-123
bSEXTANT-4bSEXTANT-14bSEXTANT-24bSEXTANT-124bSEXTANT-34bSEXTANT-134bSEXTANT-234bSEXTANT-1234
bSEXTANT-5bSEXTANT-15bSEXTANT-25bSEXTANT-125bSEXTANT-35bSEXTANT-235bSEXTANT-1235bSEXTANT-45
bSEXTANT-145bSEXTANT-245bSEXTANT-1245bSEXTANT-345bSEXTANT-1345bSEXTANT-2345bSEXTANT-12345
bSEXTANT-6bSEXTANT-16bSEXTANT-26bSEXTANT-126bSEXTANT-36bSEXTANT-136bSEXTANT-236bSEXTANT-1236
bSEXTANT-46bSEXTANT-146bSEXTANT-1246bSEXTANT-346bSEXTANT-1346bSEXTANT-2346bSEXTANT-12346
bSEXTANT-56bSEXTANT-156bSEXTANT-256bSEXTANT-1256bSEXTANT-356bSEXTANT-1356bSEXTANT-2356
bSEXTANT-12356bSEXTANT-456bSEXTANT-1456bSEXTANT-2456bSEXTANT-12456bSEXTANT-3456bSEXTANT-13456
bSEXTANT-23456aLOWER LEFT BLOCK DIAGONAL LOWER MIDDLE LEFT TO LOWER CENTREjRIGHT
eUPPER MIDDLE LEFT TO LOWER CENTREjRIGHTfLEFT TO LOWER CENTRE
bRIGHT BLOCK DIAGONAL UPPER MIDDLE LEFT TO UPPER CENTREjRIGHTeLOWER MIDDLE LEFT TO UPPER CENTRE
jRIGHTfLEFT TO UPPER CENTREfMIDDLE LEFT TO UPPER MIDDLE RIGHTfCENTRE TO LOWER MIDDLE RIGHT
fLEFT TO LOWER MIDDLE RIGHTfCENTRE TO UPPER MIDDLE RIGHTfLEFT TO UPPER MIDDLE RIGHT
fCENTRE TO UPPER RIGHTbLEFT BLOCK DIAGONAL UPPER CENTRE TO UPPER MIDDLE RIGHT
fLEFT TO UPPER MIDDLE RIGHTfCENTRE TO LOWER MIDDLE RIGHTfLEFT TO LOWER MIDDLE RIGHT
fCENTRE TO LOWER RIGHTfMIDDLE LEFT TO LOWER MIDDLE RIGHT
aUPPER RIGHT BLOCK DIAGONAL LOWER MIDDLE LEFT TO LOWER CENTREjRIGHT
eUPPER MIDDLE LEFT TO LOWER CENTREjRIGHTfLEFT TO LOWER CENTRE
bLEFT BLOCK DIAGONAL UPPER MIDDLE LEFT TO UPPER CENTREjRIGHTeLOWER MIDDLE LEFT TO UPPER CENTRE
jRIGHTfLEFT TO UPPER CENTREfMIDDLE LEFT TO UPPER MIDDLE RIGHTfCENTRE TO LOWER MIDDLE RIGHT
fLEFT TO LOWER MIDDLE RIGHTfCENTRE TO UPPER MIDDLE RIGHTfLEFT TO UPPER MIDDLE RIGHT
fCENTRE TO UPPER RIGHTbRIGHT BLOCK DIAGONAL UPPER CENTRE TO UPPER MIDDLE RIGHT
fLEFT TO UPPER MIDDLE RIGHTfCENTRE TO LOWER MIDDLE RIGHTfLEFT TO LOWER MIDDLE RIGHT
fCENTRE TO LOWER RIGHTfMIDDLE LEFT TO LOWER MIDDLE RIGHT
bAND RIGHT AND LOWER TRIANGULAR THREE QUARTERS BLOCK
aLEFT AND LOWER AND RIGHT TRIANGULAR THREE QUARTERS BLOCK
aUPPER AND LEFT AND LOWER TRIANGULAR THREE QUARTERS BLOCK
aLEFT AND UPPER AND RIGHT TRIANGULAR THREE QUARTERS BLOCKbTRIANGULAR ONE QUARTER BLOCK
aUPPER TRIANGULAR ONE QUARTER BLOCKaRIGHT TRIANGULAR ONE QUARTER BLOCK
aLOWER TRIANGULAR ONE QUARTER BLOCKaVERTICAL ONE EIGHTH BLOCK-2dBLOCK-3dBLOCK-4dBLOCK-5dBLOCK-6
dBLOCK-7aHORIZONTAL ONE EIGHTH BLOCK-2dBLOCK-3dBLOCK-4dBLOCK-5dBLOCK-6dBLOCK-7
aLEFT AND LOWER ONE EIGHTH BLOCKcUPPER ONE EIGHTH BLOCKaRIGHT AND UPPER ONE EIGHTH BLOCK
cLOWER ONE EIGHTH BLOCKaUPPER AND LOWER ONE EIGHTH BLOCKaHORIZONTAL ONE EIGHTH BLOCK-1358
aUPPER ONE QUARTER BLOCKbTHREE EIGHTHS BLOCKbFIVE EIGHTHS BLOCKbTHREE QUARTERS BLOCK
bSEVEN EIGHTHS BLOCKaRIGHT ONE QUARTER BLOCKbTHREE EIGHTHS BLOCKbFIVE EIGHTHS BLOCK
bTHREE QUARTERS BLOCKbSEVEN EIGHTHS BLOCKaLEFT HALF MEDIUM SHADEaRIGHT HALF MEDIUM SHADE
aUPPER HALF MEDIUM SHADEaLOWER HALF MEDIUM SHADEaINVERSE MEDIUM SHADE
aUPPER HALF BLOCK AND LOWER HALF INVERSE MEDIUM SHADEcINVERSE MEDIUM SHADE AND LOWER HALF BLOCK"),
  (0x1FB94, "aLEFT HALF INVERSE MEDIUM SHADE AND RIGHT HALF BLOCKaCHECKER BOARD FILL
aINVERSE CHECKER BOARD FILLaHEAVY HORIZONTAL FILLaUPPER LEFT TO LOWER RIGHT FILL
bRIGHT TO LOWER LEFT FILLbAND LOWER TRIANGULAR HALF BLOCKaLEFT AND RIGHT TRIANGULAR HALF BLOCK
aUPPER LEFT TRIANGULAR MEDIUM SHADEbRIGHT TRIANGULAR MEDIUM SHADE
aLOWER RIGHT TRIANGULAR MEDIUM SHADEbLEFT TRIANGULAR MEDIUM SHADE
aBOX DRAWINGS LIGHT DIAGONAL UPPER CENTRE TO MIDDLE LEFTiRIGHTeMIDDLE LEFT TO LOWER CENTRE
fRIGHT TO LOWER CENTREeUPPER CENTRE TO MIDDLE LEFT TO LOWER CENTREiRIGHT TO LOWER CENTRE
eMIDDLE LEFT TO LOWER CENTRE TO MIDDLE RIGHThUPPER CENTRE TO MIDDLE RIGHT
eUPPER CENTRE TO MIDDLE LEFT AND MIDDLE RIGHT TO LOWER CENTRE
iRIGHT AND MIDDLE LEFT TO LOWER CENTREjTO LOWER CENTRE TO MIDDLE LEFT
iLEFT TO LOWER CENTRE TO MIDDLE RIGHT
eMIDDLE LEFT TO UPPER CENTRE TO MIDDLE RIGHT TO LOWER CENTRE
fRIGHT TO UPPER CENTRE TO MIDDLE LEFT TO LOWER CENTREeDIAMONDdHORIZONTAL WITH VERTICAL STROKE
aARROWHEAD-SHAPED POINTERaINVERSE CHECK MARKaLEFT HALF RUNNING MANaRIGHT HALF RUNNING MAN
aINVERSE DOWNWARDS ARROW WITH TIP LEFTWARDSaLEFTWARDS ARROW AND UPPER AND LOWER ONE EIGHTH BLOCK
aRIGHTWARDS ARROW AND UPPER AND LOWER ONE EIGHTH BLOCK
aDOWNWARDS ARROW AND RIGHT ONE EIGHTH BLOCKaUPWARDS ARROW AND RIGHT ONE EIGHTH BLOCK
aLEFT HALF FOLDERaRIGHT HALF FOLDERaVOIDED GREEK CROSSaRIGHT OPEN SQUARED DOT
aNEGATIVE DIAGONAL CROSScMIDDLE RIGHT TO LOWER CENTREcDIAMOND
aWHITE HEAVY SALTIRE WITH ROUNDED CORNERSaLEFT THIRD WHITE RIGHT POINTING INDEX
aMIDDLE THIRD WHITE RIGHT POINTING INDEXaRIGHT THIRD WHITE RIGHT POINTING INDEX
aNEGATIVE SQUARED QUESTION MARKaSTICK FIGUREcWITH ARMS RAISEDcLEANING LEFTdRIGHTcWITH DRESS
aWHITE UP-POINTING CHEVRON"),
  (0x1FBF0, "aSEGMENTED DIGIT ZEROcONEcTWOcTHREEcFOURcFIVEcSIXcSEVENcEIGHTcNINE"),
  (0xE0001, "aLANGUAGE TAG"),
  (0xE0020, "aTAG SPACEbEXCLAMATION MARKbQUOTATION MARKbNUMBER SIGNbDOLLAR SIGNbPERCENT SIGN
bAMPERSANDbAPOSTROPHEbLEFT PARENTHESISbRIGHT PARENTHESISbASTERISKbPLUS SIGNbCOMMAbHYPHEN-MINUS
bFULL STOPbSOLIDUSbDIGIT ZEROcONEcTWOcTHREEcFOURcFIVEcSIXcSEVENcEIGHTcNINEbCOLONbSEMICOLON
bLESS-THAN SIGNbEQUALS SIGNbGREATER-THAN SIGNbQUESTION MARKbCOMMERCIAL ATbLATIN CAPITAL LETTER A
eBeCeDeEeFeGeHeIeJeKeLeMeNeOePeQeReSeTeUeVeWeXeYeZbLEFT SQUARE BRACKETbREVERSE SOLIDUS
bRIGHT SQUARE BRACKETbCIRCUMFLEX ACCENTbLOW LINEbGRAVE ACCENTbLATIN SMALL LETTER AeBeCeDeEeFeGeH
eIeJeKeLeMeNeOePeQeReSeTeUeVeWeXeYeZbLEFT CURLY BRACKETbVERTICAL LINEbRIGHT CURLY BRACKETbTILDE
aCANCEL TAG"),
  (0xE0100, "aVARIATION SELECTOR-17bSELECTOR-18bSELECTOR-19bSELECTOR-20bSELECTOR-21bSELECTOR-22
bSELECTOR-23bSELECTOR-24bSELECTOR-25bSELECTOR-26bSELECTOR-27bSELECTOR-28bSELECTOR-29bSELECTOR-30
bSELECTOR-31bSELECTOR-32bSELECTOR-33bSELECTOR-34bSELECTOR-35bSELECTOR-36bSELECTOR-37bSELECTOR-38
bSELECTOR-39bSELECTOR-40bSELECTOR-41bSELECTOR-42bSELECTOR-43bSELECTOR-44bSELECTOR-45bSELECTOR-46
bSELECTOR-47bSELECTOR-48bSELECTOR-49bSELECTOR-50bSELECTOR-51bSELECTOR-52bSELECTOR-53bSELECTOR-54
bSELECTOR-55bSELECTOR-56bSELECTOR-57bSELECTOR-58bSELECTOR-59bSELECTOR-60bSELECTOR-61bSELECTOR-62
bSELECTOR-63bSELECTOR-64bSELECTOR-65bSELECTOR-66bSELECTOR-67bSELECTOR-68bSELECTOR-69bSELECTOR-70
bSELECTOR-71bSELECTOR-72bSELECTOR-73bSELECTOR-74bSELECTOR-75bSELECTOR-76bSELECTOR-77bSELECTOR-78
bSELECTOR-79bSELECTOR-80bSELECTOR-81bSELECTOR-82bSELECTOR-83bSELECTOR-84bSELECTOR-85bSELECTOR-86
bSELECTOR-87bSELECTOR-88bSELECTOR-89bSELECTOR-90bSELECTOR-91bSELECTOR-92bSELECTOR-93bSELECTOR-94
bSELECTOR-95bSELECTOR-96bSELECTOR-97bSELECTOR-98bSELECTOR-99bSELECTOR-100bSELECTOR-101
bSELECTOR-102bSELECTOR-103bSELECTOR-104bSELECTOR-105bSELECTOR-106bSELECTOR-107bSELECTOR-108
bSELECTOR-109bSELECTOR-110bSELECTOR-111bSELECTOR-112bSELECTOR-113bSELECTOR-114bSELECTOR-115
bSELECTOR-116bSELECTOR-117bSELECTOR-118bSELECTOR-119bSELECTOR-120bSELECTOR-121bSELECTOR-122
bSELECTOR-123bSELECTOR-124bSELECTOR-125bSELECTOR-126bSELECTOR-127bSELECTOR-128bSELECTOR-129
bSELECTOR-130bSELECTOR-131bSELECTOR-132bSELECTOR-133bSELECTOR-134bSELECTOR-135bSELECTOR-136
bSELECTOR-137bSELECTOR-138bSELECTOR-139bSELECTOR-140bSELECTOR-141bSELECTOR-142bSELECTOR-143
bSELECTOR-144bSELECTOR-145bSELECTOR-146bSELECTOR-147bSELECTOR-148bSELECTOR-149bSELECTOR-150
bSELECTOR-151bSELECTOR-152bSELECTOR-153bSELECTOR-154bSELECTOR-155bSELECTOR-156bSELECTOR-157
bSELECTOR-158bSELECTOR-159bSELECTOR-160bSELECTOR-161bSELECTOR-162bSELECTOR-163bSELECTOR-164
bSELECTOR-165bSELECTOR-166bSELECTOR-167bSELECTOR-168bSELECTOR-169bSELECTOR-170bSELECTOR-171
bSELECTOR-172bSELECTOR-173bSELECTOR-174bSELECTOR-175bSELECTOR-176bSELECTOR-177bSELECTOR-178
bSELECTOR-179bSELECTOR-180bSELECTOR-181bSELECTOR-182bSELECTOR-183bSELECTOR-184bSELECTOR-185
bSELECTOR-186bSELECTOR-187bSELECTOR-188bSELECTOR-189bSELECTOR-190bSELECTOR-191bSELECTOR-192
bSELECTOR-193bSELECTOR-194bSELECTOR-195bSELECTOR-196bSELECTOR-197bSELECTOR-198bSELECTOR-199
bSELECTOR-200bSELECTOR-201bSELECTOR-202bSELECTOR-203bSELECTOR-204bSELECTOR-205bSELECTOR-206
bSELECTOR-207bSELECTOR-208bSELECTOR-209bSELECTOR-210bSELECTOR-211bSELECTOR-212bSELECTOR-213
bSELECTOR-214bSELECTOR-215bSELECTOR-216bSELECTOR-217bSELECTOR-218bSELECTOR-219bSELECTOR-220
bSELECTOR-221bSELECTOR-222bSELECTOR-223bSELECTOR-224bSELECTOR-225bSELECTOR-226bSELECTOR-227
bSELECTOR-228bSELECTOR-229bSELECTOR-230bSELECTOR-231bSELECTOR-232bSELECTOR-233bSELECTOR-234
bSELECTOR-235bSELECTOR-236bSELECTOR-237bSELECTOR-238bSELECTOR-239bSELECTOR-240bSELECTOR-241
bSELECTOR-242bSELECTOR-243bSELECTOR-244bSELECTOR-245bSELECTOR-246bSELECTOR-247bSELECTOR-248
bSELECTOR-249bSELECTOR-250bSELECTOR-251bSELECTOR-252bSELECTOR-253bSELECTOR-254bSELECTOR-255
bSELECTOR-256")]

end SourceLedger.CharacterName
