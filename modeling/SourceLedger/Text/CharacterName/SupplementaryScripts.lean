/-!
# Names in supplementary scripts

The characters from U+10000 to U+1CFFF: ancient scripts and those of smaller communities.
Each listing begins with the code point of its first character; how its names are written
is said where they are read.
-/

namespace SourceLedger.CharacterName

/-- The listings, in the order of their code points. -/
def supplementaryScripts : List (Nat × String) := [
  (0x10000, "aLINEAR B SYLLABLE B008 AdB038 EdB028 IdB061 OdB010 UdB001 DAdB045 DEdB007 DI
dB014 DOdB051 DUdB057 JAdB046 JE"),
  (0x1000D, "aLINEAR B SYLLABLE B036 JOdB065 JUdB077 KAdB044 KEdB067 KIdB070 KOdB081 KUdB080 MA
dB013 MEdB073 MIdB015 MOdB023 MUdB006 NAdB024 NEdB030 NIdB052 NOdB055 NUdB003 PAdB072 PEdB039 PI
dB011 POdB050 PUdB016 QAdB078 QEdB021 QIdB032 QO"),
  (0x10028, "aLINEAR B SYLLABLE B060 RAdB027 REdB053 RIdB002 ROdB026 RUdB031 SAdB009 SEdB041 SI
dB012 SOdB058 SUdB059 TAdB004 TEdB037 TIdB005 TOdB069 TUdB054 WAdB075 WEdB040 WIdB042 WO"),
  (0x1003C, "aLINEAR B SYLLABLE B017 ZAdB074 ZE"),
  (0x1003F, "aLINEAR B SYLLABLE B020 ZOdB025 A2dB043 A3dB085 AUdB071 DWEdB090 DWOdB048 NWA
dB029 PU2dB062 PTEdB076 RA2dB033 RA3dB068 RO2dB066 TA2dB087 TWEdB091 TWO"),
  (0x10050, "aLINEAR B SYMBOL B018dB019dB022dB034dB047dB049dB056dB063dB064dB079dB082dB083dB086
dB089"),
  (0x10080, "aLINEAR B IDEOGRAM B100 MANdB102 WOMANdB104 DEERdB105 EQUIDdB105F MARE
dB105M STALLIONdB106F EWEdB106M RAMdB107F SHE-GOATdB107M HE-GOATdB108F SOWdB108M BOARdB109F COW
dB109M BULLdB120 WHEATdB121 BARLEYdB122 OLIVEdB123 SPICEdB125 CYPERUScMONOGRAM B127 KAPO
dB128 KANAKOcIDEOGRAM B130 OILdB131 WINEdB132cMONOGRAM B133 AREPAdB135 MERIcIDEOGRAM B140 BRONZE
dB141 GOLDdB142dB145 WOOLdB146dB150dB151 HORNdB152dB153dB154cMONOGRAM B156 TURO2cIDEOGRAM B157
dB158dB159 CLOTHdB160dB161dB162 GARMENTdB163 ARMOURdB164dB165dB166dB167dB168dB169dB170dB171dB172
dB173 MONTHdB174dB176 TREEdB177dB178dB179dB180dB181dB182dB183dB184dB185dB189dB190dB191 HELMET
dB220 FOOTSTOOLdB225 BATHTUBdB230 SPEARdB231 ARROWdB232dB233 SWORDdB234dB236
dB240 WHEELED CHARIOTdB241 CHARIOTdB242 CHARIOT FRAMEdB243 WHEELdB245dB246cMONOGRAM B247 DIPTE
cIDEOGRAM B248dB249dB251dB252dB253dB254 DARTdB255dB256dB257dB258dB259dVESSEL B155eB200eB201eB202
eB203eB204eB205eB206eB207eB208eB209eB210eB211eB212eB213eB214eB215eB216eB217eB218eB219eB221eB222
eB226eB227eB228eB229eB250eB305"),
  (0x10100, "aAEGEAN WORD SEPARATOR LINEdDOTbCHECK MARK"),
  (0x10107, "aAEGEAN NUMBER ONEcTWOcTHREEcFOURcFIVEcSIXcSEVENcEIGHTcNINEcTENcTWENTYcTHIRTYcFORTY
cFIFTYcSIXTYcSEVENTYcEIGHTYcNINETYcONE HUNDREDcTWO HUNDREDcTHREE HUNDREDcFOUR HUNDRED
cFIVE HUNDREDcSIX HUNDREDcSEVEN HUNDREDcEIGHT HUNDREDcNINE HUNDREDcONE THOUSANDcTWO THOUSAND
cTHREE THOUSANDcFOUR THOUSANDcFIVE THOUSANDcSIX THOUSANDcSEVEN THOUSANDcEIGHT THOUSAND
cNINE THOUSANDcTEN THOUSANDcTWENTY THOUSANDcTHIRTY THOUSANDcFORTY THOUSANDcFIFTY THOUSAND
cSIXTY THOUSANDcSEVENTY THOUSANDcEIGHTY THOUSANDcNINETY THOUSAND"),
  (0x10137, "aAEGEAN WEIGHT BASE UNITcFIRST SUBUNITcSECOND SUBUNITcTHIRD SUBUNITcFOURTH SUBUNIT
bDRY MEASURE FIRST SUBUNITbLIQUID MEASURE FIRST SUBUNITbMEASURE SECOND SUBUNITcTHIRD SUBUNIT
aGREEK ACROPHONIC ATTIC ONE QUARTEReHALFeDRACHMAdFIVEdFIFTYdFIVE HUNDREDeTHOUSANDdFIFTY THOUSAND
dFIVE TALENTSdTEN TALENTSdFIFTY TALENTSdONE HUNDRED TALENTSdFIVE HUNDRED TALENTS
dONE THOUSAND TALENTSdFIVE THOUSAND TALENTSeSTATERSdTEN STATERSdFIFTY STATERS
dONE HUNDRED STATERSdFIVE HUNDRED STATERSdONE THOUSAND STATERSdTEN THOUSAND STATERS
dFIFTY THOUSAND STATERSdTEN MNAScHERAEUM ONE PLETHRONcTHESPIAN ONEcHERMIONIAN ONEcEPIDAUREAN TWO
cTHESPIAN TWOcCYRENAIC TWO DRACHMAScEPIDAUREAN TWO DRACHMAScTROEZENIAN FIVEdTENeALTERNATE FORM
cHERMIONIAN TENcMESSENIAN TENcTHESPIAN TENdTHIRTYcTROEZENIAN FIFTYeALTERNATE FORM
cHERMIONIAN FIFTYcTHESPIAN FIFTYdONE HUNDREDdTHREE HUNDREDcEPIDAUREAN FIVE HUNDRED
cTROEZENIAN FIVE HUNDREDcTHESPIAN FIVE HUNDREDcCARYSTIAN FIVE HUNDREDcNAXIAN FIVE HUNDRED
cTHESPIAN ONE THOUSANDdFIVE THOUSANDcDELPHIC FIVE MNAScSTRATIAN FIFTY MNASbONE HALF SIGN
eALTERNATE FORMbTWO THIRDS SIGNbTHREE QUARTERS SIGNbYEAR SIGNbTALENT SIGNbDRACHMA SIGNbOBOL SIGN
bTWO OBOLS SIGNbTHREE OBOLS SIGNbFOUR OBOLS SIGNbFIVE OBOLS SIGNbMETRETES SIGNbKYATHOS BASE SIGN
bLITRA SIGNbOUNKIA SIGNbXESTES SIGNbARTABE SIGNbAROURA SIGNbGRAMMA SIGNbTRYBLION BASE SIGN
bZERO SIGNbONE QUARTER SIGNbSINUSOID SIGNbINDICTION SIGNaNOMISMA SIGN"),
  (0x10190, "aROMAN SEXTANS SIGNbUNCIA SIGNbSEMUNCIA SIGNbSEXTULA SIGNbDIMIDIA SEXTULA SIGN
bSILIQUA SIGNbDENARIUS SIGNbQUINARIUS SIGNbSESTERTIUS SIGNbDUPONDIUS SIGNbAS SIGNbCENTURIAL SIGN
aASCIA SYMBOL"),
  (0x101A0, "aGREEK SYMBOL TAU RHO"),
  (0x101D0, "aPHAISTOS DISC SIGN PEDESTRIANdPLUMED HEADdTATTOOED HEADdCAPTIVEdCHILDdWOMANdHELMET
dGAUNTLETdTIARAdARROWdBOWdSHIELDdCLUBdMANACLESdMATTOCKdSAWdLIDdBOOMERANGdCARPENTRY PLANEdDOLIUM
dCOMBdSLINGdCOLUMNdBEEHIVEdSHIPdHORNdHIDEdBULLS LEGdCATdRAMdEAGLEdDOVEdTUNNYdBEEdPLANE TREEdVINE
dPAPYRUSdROSETTEdLILYdOX BACKdFLUTEdGRATERdSTRAINERdSMALL AXEdWAVY BANDdCOMBINING OBLIQUE STROKE"),
  (0x10280, "aLYCIAN LETTER AcEcBcBHcGcDcIcWcZcTHcJcKcQcLcMcNcMMcNNcUcPcKKcRcScTcTTcANcENcHcX"),
  (0x102A0, "aCARIAN LETTER AcP2cDcLcUUUcRcLDcA2cQcBcMcOcD2cTcSHcSH2cScC-18cUcNNcXcNcTT2cPcSScI
cEcUUUUcKcK2cNDcUUcGcG2cSTcST2cNGcIIcC-39cTTcUUU2cRRcMBcMB2cMB3cMB4cLD2cE2cUUU3"),
  (0x102E0, "aCOPTIC EPACT THOUSANDS MARKcDIGIT ONEdTWOdTHREEdFOURdFIVEdSIXdSEVENdEIGHTdNINE
cNUMBER TENdTWENTYdTHIRTYdFORTYdFIFTYdSIXTYdSEVENTYdEIGHTYdNINETYdONE HUNDREDdTWO HUNDRED
dTHREE HUNDREDdFOUR HUNDREDdFIVE HUNDREDdSIX HUNDREDdSEVEN HUNDREDdEIGHT HUNDREDdNINE HUNDRED"),
  (0x10300, "aOLD ITALIC LETTER AdBEdKEdDEdEdVEdZEdHEdTHEdIdKAdELdEMdENdESHdOdPEdSHEdKUdERdESdTE
dUdEKSdPHEdKHEdEFdERSdCHEdIIdUUdESScNUMERAL ONEdFIVEdTENdFIFTY"),
  (0x1032D, "aOLD ITALIC LETTER YEdNORTHERN TSEdSOUTHERN TSEaGOTHIC LETTER AHSAcBAIRKANcGIBA
cDAGScAIHVUScQAIRTHRAcIUJAcHAGLcTHIUTHcEIScKUSMAcLAGUScMANNAcNAUTHScJERcURUScPAIRTHRAcNINETY
cRAIDAcSAUILcTEIWScWINJAcFAIHUcIGGWScHWAIRcOTHALcNINE HUNDRED"),
  (0x10350, "aOLD PERMIC LETTER ANdBURdGAIdDOIdEdZHOIdDZHOIdZATAdDZITAdIdKOKEdLEIdMENOEdNENOE
dVOOIdPEEIdREIdSIIdTAIdUdCHERYdSHOOIdSHCHOOIdYRYdYERUdOdOOdEFdHAdTSIUdVERdYERdYERIdYATdIEdYUdYA
dIAaCOMBINING OLD PERMIC LETTER ANeDOIeZATAeNENOEeSII"),
  (0x10380, "aUGARITIC LETTER ALPAcBETAcGAMLAcKHAcDELTAcHOcWOcZETAcHOTAcTETcYODcKAFcSHINcLAMDA
cMEMcDHALcNUNcZUcSAMKAcAINcPUcSADEcQOPAcRASHAcTHANNAcGHAINcTOcIcUcSSU"),
  (0x1039F, "aUGARITIC WORD DIVIDERaOLD PERSIAN SIGN AdIdUdKAdKUdGAdGUdXAdCAdJAdJIdTAdTUdDAdDI
dDUdTHAdPAdBAdFAdNAdNUdMAdMIdMUdYAdVAdVIdRAdRUdLAdSAdZAdSHAdSSAdHA"),
  (0x103C8, "aOLD PERSIAN SIGN AURAMAZDAAdAURAMAZDAA-2dAURAMAZDAAHAdXSHAAYATHIYAdDAHYAAUSH
dDAHYAAUSH-2dBAGAdBUUMISHcWORD DIVIDERcNUMBER ONEdTWOdTENdTWENTYdHUNDRED"),
  (0x10400, "aDESERET CAPITAL LETTER LONG IeEeAeAHeOeOOdSHORT IeEeAeAHeOeOOdAYdOWdWUdYEEdHdPEE
dBEEdTEEdDEEdCHEEdJEEdKAYdGAYdEFdVEEdETHdTHEEdESdZEEdESHdZHEEdERdELdEMdENdENGdOIdEW
bSMALL LETTER LONG IeEeAeAHeOeOOdSHORT IeEeAeAHeOeOOdAYdOWdWUdYEEdHdPEEdBEEdTEEdDEEdCHEEdJEEdKAY
dGAYdEFdVEEdETHdTHEEdESdZEEdESHdZHEEdERdELdEMdENdENGdOIdEWaSHAVIAN LETTER PEEPcTOTcKICKcFEE
cTHIGHcSOcSUREcCHURCHcYEAcHUNGcBIBcDEADcGAGcVOWcTHEYcZOOcMEASUREcJUDGEcWOEcHA-HAcLOLLcMIMEcIF
cEGGcASHcADOcONcWOOLcOUTcAHcROARcNUNcEATcAGEcICEcUPcOAKcOOZEcOILcAWEcAREcORcAIRcERRcARRAYcEAR
cIANcYEWaOSMANYA LETTER ALEFcBAcTAcJAcXAcKHAcDEELcRAcSAcSHIINcDHAcCAYNcGAcFAcQAAFcKAAFcLAANcMIIN
cNUUNcWAWcHAcYAcAcEcIcOcUcAAcEEcOO"),
  (0x104A0, "aOSMANYA DIGIT ZEROcONEcTWOcTHREEcFOURcFIVEcSIXcSEVENcEIGHTcNINE"),
  (0x104B0, "aOSAGE CAPITAL LETTER AdAIdAINdAHdBRAdCHAdEHCHAdEdEINdHAdHYAdIdKAdEHKAdKYAdLAdMAdNA
dOdOINdPAdEHPAdSAdSHAdTAdEHTAdTSAdEHTSAdTSHAdDHAdUdWAdKHAdGHAdZAdZHA"),
  (0x104D8, "aOSAGE SMALL LETTER AdAIdAINdAHdBRAdCHAdEHCHAdEdEINdHAdHYAdIdKAdEHKAdKYAdLAdMAdNAdO
dOINdPAdEHPAdSAdSHAdTAdEHTAdTSAdEHTSAdTSHAdDHAdUdWAdKHAdGHAdZAdZHA"),
  (0x10500, "aELBASAN LETTER AcBEcCEcCHEcDEcNDEcDHEcEIcEcFEcGEcGJEcHEcIcJEcKEcLEcLLEcMEcNEcNA
cNJEcOcPEcQEcREcRREcSEcSHEcTEcTHEcUcVEcXEcYcZEcZHEcGHEcGHAMMAcKHE"),
  (0x10530, "aCAUCASIAN ALBANIAN LETTER ALTdBETdGIMdDATdEBdZARLdEYNdZHILdTASdCHAdYOWDdZHAdIRB
dSHAdLANdINYAdXEYNdDYANdCARdJHOXdKARdLYITdHEYTdQAYdAORdCHOYdCHIdCYAYdMAQdQARdNOWCdDZYAYdSHAK
dJAYNdONdTYAYdFAMdDZAYdCHATdPENdGHEYSdRATdSEYKdVEYZdTIWRdSHOYdIWNdCYAWdCAYNdYAYDdPIWRdKIW"),
  (0x1056F, "aCAUCASIAN ALBANIAN CITATION MARKaVITHKUQI CAPITAL LETTER AdBBEdBEdCEdCHEdDEdDHEdEI
dEdFEdGA"),
  (0x1057C, "aVITHKUQI CAPITAL LETTER HAdHHAdIdIJEdJEdKAdLAdLLAdMEdNEdNJEdOdPEdQAdRE"),
  (0x1058C, "aVITHKUQI CAPITAL LETTER SEdSHEdTEdTHEdUdVEdXE"),
  (0x10594, "aVITHKUQI CAPITAL LETTER YdZE"),
  (0x10597, "aVITHKUQI SMALL LETTER AdBBEdBEdCEdCHEdDEdDHEdEIdEdFEdGA"),
  (0x105A3, "aVITHKUQI SMALL LETTER HAdHHAdIdIJEdJEdKAdLAdLLAdMEdNEdNJEdOdPEdQAdRE"),
  (0x105B3, "aVITHKUQI SMALL LETTER SEdSHEdTEdTHEdUdVEdXE"),
  (0x105BB, "aVITHKUQI SMALL LETTER YdZE"),
  (0x10600, "aLINEAR A SIGN AB001dAB002dAB003dAB004dAB005dAB006dAB007dAB008dAB009dAB010dAB011
dAB013dAB016dAB017dAB020dAB021dAB021FdAB021MdAB022dAB022FdAB022MdAB023dAB023MdAB024dAB026dAB027
dAB028dA028BdAB029dAB030dAB031dAB034dAB037dAB038dAB039dAB040dAB041dAB044dAB045dAB046dAB047dAB048
dAB049dAB050dAB051dAB053dAB054dAB055dAB056dAB057dAB058dAB059dAB060dAB061dAB065dAB066dAB067dAB069
dAB070dAB073dAB074dAB076dAB077dAB078dAB079dAB080dAB081dAB082dAB085dAB086dAB087dA100-102dAB118
dAB120dA120BdAB122dAB123dAB131AdAB131BdA131CdAB164dAB171dAB180dAB188dAB191dA301dA302dA303dA304
dA305dA306dA307dA308dA309AdA309BdA309CdA310dA311dA312dA313AdA313BdA313CdA314dA315dA316dA317dA318
dA319dA320dA321dA322dA323dA324dA325dA326dA327dA328dA329dA330dA331dA332dA333dA334dA335dA336dA337
dA338dA339dA340dA341dA342dA343dA344dA345dA346dA347dA348dA349dA350dA351dA352dA353dA354dA355dA356
dA357dA358dA359dA360dA361dA362dA363dA364dA365dA366dA367dA368dA369dA370dA371dA400-VASdA401-VAS
dA402-VASdA403-VASdA404-VASdA405-VASdA406-VASdA407-VASdA408-VASdA409-VASdA410-VASdA411-VAS
dA412-VASdA413-VASdA414-VASdA415-VASdA416-VASdA417-VASdA418-VASdA501dA502dA503dA504dA505dA506
dA508dA509dA510dA511dA512dA513dA515dA516dA520dA521dA523dA524dA525dA526dA527dA528dA529dA530dA531
dA532dA534dA535dA536dA537dA538dA539dA540dA541dA542dA545dA547dA548dA549dA550dA551dA552dA553dA554
dA555dA556dA557dA559dA563dA564dA565dA566dA568dA569dA570dA571dA572dA573dA574dA575dA576dA577dA578
dA579dA580dA581dA582dA583dA584dA585dA586dA587dA588dA589dA591dA592dA594dA595dA596dA598dA600dA601
dA602dA603dA604dA606dA608dA609dA610dA611dA612dA613dA614dA615dA616dA617dA618dA619dA620dA621dA622
dA623dA624dA626dA627dA628dA629dA634dA637dA638dA640dA642dA643dA644dA645dA646dA648dA649dA651dA652
dA653dA654dA655dA656dA657dA658dA659dA660dA661dA662dA663dA664"),
  (0x10740, "aLINEAR A SIGN A701 AdA702 BdA703 DdA704 EdA705 FdA706 HdA707 JdA708 KdA709 L
dA709-2 L2dA709-3 L3dA709-4 L4dA709-6 L6dA710 WdA711 XdA712 YdA713 OMEGAdA714 ABBdA715 BB
dA717 DDdA726 EYYYdA732 JE"),
  (0x10760, "aLINEAR A SIGN A800dA801dA802dA803dA804dA805dA806dA807"),
  (0x10780, "aMODIFIER LETTER SMALL CAPITAL AAcSUPERSCRIPT TRIANGULAR COLON
dHALF TRIANGULAR COLONcSMALL AEdCAPITAL BdB WITH HOOK"),
  (0x10787, "aMODIFIER LETTER SMALL DZ DIGRAPHfWITH RETROFLEX HOOKgCURLdDEZH DIGRAPHdD WITH TAIL
fHOOKgAND TAILdREVERSED EdCLOSED REVERSED OPEN EdFENG DIGRAPHdRAMS HORNdCAPITAL GdG WITH HOOK
dCAPITAL G WITH HOOKdH WITH STROKEdCAPITAL HdHENG WITH HOOKdDOTLESS J WITH STROKE AND HOOK
dLS DIGRAPHdLZ DIGRAPHdL WITH BELTdCAPITAL L WITH BELTdL WITH RETROFLEX HOOK AND BELTdLEZH
eWITH RETROFLEX HOOKdTURNED YfWITH BELTdO WITH STROKEdCAPITAL OEdCLOSED OMEGAdQ
dTURNED R WITH LONG LEGiAND RETROFLEX HOOKdR WITH TAILfFISHHOOKdCAPITAL RdTC DIGRAPH WITH CURL
dTS DIGRAPHfWITH RETROFLEX HOOKdTESH DIGRAPHdT WITH RETROFLEX HOOKdV WITH RIGHT HOOK"),
  (0x107B2, "aMODIFIER LETTER SMALL CAPITAL YcGLOTTAL STOP WITH STROKE
cREVERSED GLOTTAL STOP WITH STROKEcBILABIAL CLICKcDENTAL CLICKcLATERAL CLICKcALVEOLAR CLICK
cRETROFLEX CLICK WITH RETROFLEX HOOKcSMALL S WITH CURL"),
  (0x10800, "aCYPRIOT SYLLABLE AcEcIcOcUcJA"),
  (0x10808, "aCYPRIOT SYLLABLE JO"),
  (0x1080A, "aCYPRIOT SYLLABLE KAcKEcKIcKOcKUcLAcLEcLIcLOcLUcMAcMEcMIcMOcMUcNAcNEcNIcNOcNUcPAcPE
cPIcPOcPUcRAcREcRIcROcRUcSAcSEcSIcSOcSUcTAcTEcTIcTOcTUcWAcWEcWIcWO"),
  (0x10837, "aCYPRIOT SYLLABLE XAcXE"),
  (0x1083C, "aCYPRIOT SYLLABLE ZA"),
  (0x1083F, "aCYPRIOT SYLLABLE ZOaIMPERIAL ARAMAIC LETTER ALEPHdBETHdGIMELdDALETHdHEdWAWdZAYIN
dHETHdTETHdYODHdKAPHdLAMEDHdMEMdNUNdSAMEKHdAYINdPEdSADHEdQOPHdRESHdSHINdTAW"),
  (0x10857, "aIMPERIAL ARAMAIC SECTION SIGNcNUMBER ONEdTWOdTHREEdTENdTWENTYdONE HUNDREDeTHOUSAND
dTEN THOUSANDaPALMYRENE LETTER ALEPHcBETHcGIMELcDALETHcHEcWAWcZAYINcHETHcTETHcYODHcKAPHcLAMEDH
cMEMcFINAL NUNcNUNcSAMEKHcAYINcPEcSADHEcQOPHcRESHcSHINcTAWbLEFT-POINTING FLEURON
bRIGHT-POINTING FLEURONbNUMBER ONEcTWOcTHREEcFOURcFIVEcTENcTWENTYaNABATAEAN LETTER FINAL ALEPH
cALEPHcFINAL BETHcBETHcGIMELcDALETHcFINAL HEcHEcWAWcZAYINcHETHcTETHcFINAL YODHcYODHcFINAL KAPH
cKAPHcFINAL LAMEDHcLAMEDHcFINAL MEMcMEMcFINAL NUNcNUNcSAMEKHcAYINcPEcSADHEcQOPHcRESHcFINAL SHIN
cSHINcTAW"),
  (0x108A7, "aNABATAEAN NUMBER ONEcTWOcTHREEcFOURbCRUCIFORM NUMBER FOURbNUMBER FIVEcTENcTWENTY
cONE HUNDRED"),
  (0x108E0, "aHATRAN LETTER ALEPHcBETHcGIMELcDALETH-RESHcHEcWAWcZAYNcHETHcTETHcYODHcKAPHcLAMEDH
cMEMcNUNcSAMEKHcAYNcPEcSADHEcQOPH"),
  (0x108F4, "aHATRAN LETTER SHINcTAW"),
  (0x108FB, "aHATRAN NUMBER ONEcFIVEcTENcTWENTYcONE HUNDREDaPHOENICIAN LETTER ALFcBETcGAMLcDELT
cHEcWAUcZAIcHETcTETcYODcKAFcLAMDcMEMcNUNcSEMKcAINcPEcSADEcQOFcROSHcSHINcTAUbNUMBER ONEcTEN
cTWENTYcONE HUNDREDcTWOcTHREE"),
  (0x1091F, "aPHOENICIAN WORD SEPARATORaLYDIAN LETTER AcBcGcDcEcVcIcYcKcLcMcNcOcRcSScTcUcFcQcS
cTTcANcENcLYcNNcC"),
  (0x1093F, "aLYDIAN TRIANGULAR MARK"),
  (0x10980, "aMEROITIC HIEROGLYPHIC LETTER AdEdIdOdYAdWAdBAdBA-2dPAdMAdNAdNA-2dNEdNE-2dRAdRA-2
dLAdKHAdHHAdSAdSA-2dSEdKAdQAdTAdTA-2dTEdTE-2dTOdDAcSYMBOL VIDJdVIDJ-2bCURSIVE LETTER AdEdIdOdYA
dWAdBAdPAdMAdNAdNEdRAdLAdKHAdHHAdSAdARCHAIC SAdSEdKAdQAdTAdTEdTOdDA"),
  (0x109BC, "aMEROITIC CURSIVE FRACTION ELEVEN TWELFTHSdONE HALFcLOGOGRAM RMTdIMNcNUMBER ONEdTWO
dTHREEdFOURdFIVEdSIXdSEVENdEIGHTdNINEdTENdTWENTYdTHIRTYdFORTYdFIFTYdSIXTYdSEVENTY"),
  (0x109D2, "aMEROITIC CURSIVE NUMBER ONE HUNDREDdTWO HUNDREDdTHREE HUNDREDdFOUR HUNDRED
dFIVE HUNDREDdSIX HUNDREDdSEVEN HUNDREDdEIGHT HUNDREDdNINE HUNDREDdONE THOUSANDdTWO THOUSAND
dTHREE THOUSANDdFOUR THOUSANDdFIVE THOUSANDdSIX THOUSANDdSEVEN THOUSANDdEIGHT THOUSAND
dNINE THOUSANDdTEN THOUSANDdTWENTY THOUSANDdTHIRTY THOUSANDdFORTY THOUSANDdFIFTY THOUSAND
dSIXTY THOUSANDdSEVENTY THOUSANDdEIGHTY THOUSANDdNINETY THOUSANDdONE HUNDRED THOUSAND
dTWO HUNDRED THOUSANDdTHREE HUNDRED THOUSANDdFOUR HUNDRED THOUSANDdFIVE HUNDRED THOUSAND
dSIX HUNDRED THOUSANDdSEVEN HUNDRED THOUSANDdEIGHT HUNDRED THOUSANDdNINE HUNDRED THOUSAND
cFRACTION ONE TWELFTHdTWO TWELFTHSdTHREE TWELFTHSdFOUR TWELFTHSdFIVE TWELFTHSdSIX TWELFTHS
dSEVEN TWELFTHSdEIGHT TWELFTHSdNINE TWELFTHSdTEN TWELFTHSaKHAROSHTHI LETTER AbVOWEL SIGN IdU
dVOCALIC R"),
  (0x10A05, "aKHAROSHTHI VOWEL SIGN EdO"),
  (0x10A0C, "aKHAROSHTHI VOWEL LENGTH MARKbSIGN DOUBLE RING BELOWcANUSVARAcVISARGAbLETTER KAcKHA
cGAcGHA"),
  (0x10A15, "aKHAROSHTHI LETTER CAcCHAcJA"),
  (0x10A19, "aKHAROSHTHI LETTER NYAcTTAcTTHAcDDAcDDHAcNNAcTAcTHAcDAcDHAcNAcPAcPHAcBAcBHAcMAcYA
cRAcLAcVAcSHAcSSAcSAcZAcHAcKKAcTTTHAcTTTAcVHA"),
  (0x10A38, "aKHAROSHTHI SIGN BAR ABOVEcCAUDAcDOT BELOW"),
  (0x10A3F, "aKHAROSHTHI VIRAMAbDIGIT ONEcTWOcTHREEcFOURbNUMBER TENcTWENTYcONE HUNDREDdTHOUSAND
bFRACTION ONE HALF"),
  (0x10A50, "aKHAROSHTHI PUNCTUATION DOTcSMALL CIRCLEcCIRCLEcCRESCENT BARcMANGALAMcLOTUScDANDA
cDOUBLE DANDAcLINES"),
  (0x10A60, "aOLD SOUTH ARABIAN LETTER HEeLAMEDHeHETHeMEMeQOPHeWAWeSHINeRESHeBETHeTAWeSATeKAPH
eNUNeKHETHeSADHEeSAMEKHeFEeALEFeAYNeDHADHEeGIMELeDALETHeGHAYNeTETHeZAYNeDHALETHeYODHeTHAWeTHETH
dNUMBER ONEeFIFTYdNUMERIC INDICATORbNORTH ARABIAN LETTER HEHeLAMeHAHeMEEMeQAFeWAWeES-2eREHeBEH
eTEHeES-1eKAFeNOONeKHAHeSADeES-3eFEHeALEFeAINeDADeGEEMeDALeGHAINeTAHeZAINeTHALeYEHeTHEHeZAH
dNUMBER ONEeTENeTWENTY"),
  (0x10AC0, "aMANICHAEAN LETTER ALEPHcBETHcBHETHcGIMELcGHIMELcDALETHcHEcWAWbSIGN UDbLETTER ZAYIN
cZHAYINcJAYINcJHAYINcHETHcTETHcYODHcKAPHcXAPHcKHAPHcLAMEDHcDHAMEDHcTHAMEDHcMEMcNUNcSAMEKHcAYIN
cAAYINcPEcFEcSADHEcQOPHcXOPHcQHOPHcRESHcSHINcSSHINcTAWbABBREVIATION MARK ABOVEdBELOW"),
  (0x10AEB, "aMANICHAEAN NUMBER ONEcFIVEcTENcTWENTYcONE HUNDREDbPUNCTUATION STARcFLEURON
cDOUBLE DOT WITHIN DOTcDOT WITHIN DOTdcTWO DOTScLINE FILLER"),
  (0x10B00, "aAVESTAN LETTER AcAAcAOcAAOcANcAANcAEcAEEcEcEEcOcOOcIcIIcUcUUcKEcXEcXYEcXVEcGEcGGE
cGHEcCEcJEcTEcTHEcDEcDHEcTTEcPEcFEcBEcBHEcNGEcNGYEcNGVEcNEcNYEcNNEcMEcHMEcYYEcYEcVEcREcLEcSEcZE
cSHEcZHEcSHYEcSSHEcHE"),
  (0x10B39, "aAVESTAN ABBREVIATION MARKaTINY TWO DOTS OVER ONE DOT PUNCTUATION
aSMALL TWO DOTS OVER ONE DOT PUNCTUATIONaLARGE TWO DOTS OVER ONE DOT PUNCTUATION
bONE DOT OVER TWO DOTS PUNCTUATIONbTWO RINGS OVER ONE RING PUNCTUATION
bONE RING OVER TWO RINGS PUNCTUATIONaINSCRIPTIONAL PARTHIAN LETTER ALEPHdBETHdGIMELdDALETHdHE
dWAWdZAYINdHETHdTETHdYODHdKAPHdLAMEDHdMEMdNUNdSAMEKHdAYINdPEdSADHEdQOPHdRESHdSHINdTAW"),
  (0x10B58, "aINSCRIPTIONAL PARTHIAN NUMBER ONEdTWOdTHREEdFOURdTENdTWENTYdONE HUNDREDeTHOUSAND
bPAHLAVI LETTER ALEPHdBETHdGIMELdDALETHdHEdWAW-AYIN-RESHdZAYINdHETHdTETHdYODHdKAPHdLAMEDH
dMEM-QOPHdNUNdSAMEKHdPEdSADHEdSHINdTAW"),
  (0x10B78, "aINSCRIPTIONAL PAHLAVI NUMBER ONEdTWOdTHREEdFOURdTENdTWENTYdONE HUNDREDeTHOUSAND
aPSALTER PAHLAVI LETTER ALEPHdBETHdGIMELdDALETHdHEdWAW-AYIN-RESHdZAYINdHETHdYODHdKAPHdLAMEDH
dMEM-QOPHdNUNdSAMEKHdPEdSADHEdSHINdTAW"),
  (0x10B99, "aPSALTER PAHLAVI SECTION MARKcTURNED SECTION MARKcFOUR DOTS WITH CROSSfDOT"),
  (0x10BA9, "aPSALTER PAHLAVI NUMBER ONEdTWOdTHREEdFOURdTENdTWENTYdONE HUNDRED"),
  (0x10C00, "aOLD TURKIC LETTER ORKHON AdYENISEI AeAEdORKHON IdYENISEI IeEdORKHON OeOE
dYENISEI OEdORKHON ABdYENISEI ABdORKHON AEBdYENISEI AEBdORKHON AGdYENISEI AGdORKHON AEG
dYENISEI AEGdORKHON ADdYENISEI ADdORKHON AEDeEZdYENISEI EZdORKHON AYdYENISEI AYdORKHON AEY
dYENISEI AEYdORKHON AEKdYENISEI AEKdORKHON OEKdYENISEI OEKdORKHON ALdYENISEI ALdORKHON AELeELT
eEMeANeAENdYENISEI AENdORKHON ENTdYENISEI ENTdORKHON ENCdYENISEI ENCdORKHON ENYdYENISEI ENYeANG
dORKHON ENGdYENISEI AENGdORKHON EPeOPeICeECdYENISEI ECdORKHON AQdYENISEI AQdORKHON IQdYENISEI IQ
dORKHON OQdYENISEI OQdORKHON ARdYENISEI ARdORKHON AEReASeAESeASHdYENISEI ASHdORKHON ESH
dYENISEI ESHdORKHON ATdYENISEI ATdORKHON AETdYENISEI AETdORKHON OTeBASH"),
  (0x10C80, "aOLD HUNGARIAN CAPITAL LETTER AeAAeEBeAMBeECeENCeECSeEDeANDeEeCLOSE EeEEeEFeEGeEGY
eEHeIeIIeEJeEKeAKeUNKeELeELYeEMeENeENYeOeOOeNIKOLSBURG OEeRUDIMENTA OEeOEEeEPeEMPeEReSHORT EReES
eESZeETeENTeETYeECHeUeUUeNIKOLSBURG UEeRUDIMENTA UEeEVeEZeEZSeENT-SHAPED SIGNeUS"),
  (0x10CC0, "aOLD HUNGARIAN SMALL LETTER AeAAeEBeAMBeECeENCeECSeEDeANDeEeCLOSE EeEEeEFeEGeEGYeEH
eIeIIeEJeEKeAKeUNKeELeELYeEMeENeENYeOeOOeNIKOLSBURG OEeRUDIMENTA OEeOEEeEPeEMPeEReSHORT EReES
eESZeETeENTeETYeECHeUeUUeNIKOLSBURG UEeRUDIMENTA UEeEVeEZeEZSeENT-SHAPED SIGNeUS"),
  (0x10CFA, "aOLD HUNGARIAN NUMBER ONEdFIVEdTENdFIFTYdONE HUNDREDeTHOUSAND
aHANIFI ROHINGYA LETTER AdBAdPAdTAdTTAdJAdCAdHAdKHAdFAdDAdDDAdRAdRRAdZAdSAdSHAdKAdGAdLAdMAdNAdWA
dKINNA WAdYAdKINNA YAdNGAdNYAdVAcVOWEL AdIdUdEdOcMARK SAKINdNA KHONNAcSIGN HARBAHAYdTAHALAdTANA
dTASSI"),
  (0x10D30, "aHANIFI ROHINGYA DIGIT ZEROdONEdTWOdTHREEdFOURdFIVEdSIXdSEVENdEIGHTdNINE"),
  (0x10E60, "aRUMI DIGIT ONEcTWOcTHREEcFOURcFIVEcSIXcSEVENcEIGHTcNINEbNUMBER TENcTWENTYcTHIRTY
cFORTYcFIFTYcSIXTYcSEVENTYcEIGHTYcNINETYcONE HUNDREDcTWO HUNDREDcTHREE HUNDREDcFOUR HUNDRED
cFIVE HUNDREDcSIX HUNDREDcSEVEN HUNDREDcEIGHT HUNDREDcNINE HUNDREDbFRACTION ONE HALFdQUARTER
dTHIRDcTWO THIRDS"),
  (0x10E80, "aYEZIDI LETTER ELIFcBEcPEcPHEcTHEcSEcCIMcCHIMcCHHIMcHHAcXAcDALcZALcRAcRHAcZAcJAcSIN
cSHINcSADcDADcTAcZEcEYNcXHEYNcFAcVAdALTERNATE FORMcQAFcKAFcKHAFcGAFcLAMcMIMcNUNcUMcWAWcOWcEWcHAY
cYOTcET"),
  (0x10EAB, "aYEZIDI COMBINING HAMZA MARKcMADDA MARKbHYPHENATION MARK"),
  (0x10EB0, "aYEZIDI LETTER LAM WITH DOT ABOVEcYOT WITH CIRCUMFLEX ABOVE"),
  (0x10F00, "aOLD SOGDIAN LETTER ALEPHdFINAL ALEPHdBETHdFINAL BETHdGIMELdHEdFINAL HEdWAWdZAYIN
dHETHdYODHdKAPHdLAMEDHdMEMdNUNdFINAL NUNfWITH VERTICAL TAILdSAMEKHdAYINdALTERNATE AYINdPEdSADHE
dFINAL SADHEfWITH VERTICAL TAILdRESH-AYIN-DALETHdSHINdTAWdFINAL TAWfWITH VERTICAL TAIL
cNUMBER ONEdTWOdTHREEdFOURdFIVEdTENdTWENTYdTHIRTYdONE HUNDREDcFRACTION ONE HALF
cLIGATURE AYIN-DALETH"),
  (0x10F30, "aSOGDIAN LETTER ALEPHcBETHcGIMELcHEcWAWcZAYINcHETHcYODHcKAPHcLAMEDHcMEMcNUNcSAMEKH
cAYINcPEcSADHEcRESH-AYINcSHINcTAWcFETHcLESHbINDEPENDENT SHINbCOMBINING DOT BELOWcTWO DOTS BELOW
cDOT ABOVEcTWO DOTS ABOVEcCURVE ABOVEdBELOWcHOOK ABOVEdBELOWcLONG HOOK BELOWcRESH BELOW
cSTROKE BELOWbNUMBER ONEcTENcTWENTYcONE HUNDREDbPUNCTUATION TWO VERTICAL BARSfWITH DOTS
cCIRCLE WITH DOTcTWO CIRCLES WITH DOTScHALF CIRCLE WITH DOT"),
  (0x10F70, "aOLD UYGHUR LETTER ALEPHdBETHdGIMEL-HETHdWAWdZAYINdFINAL HETHdYODHdKAPHdLAMEDHdMEM
dNUNdSAMEKHdPEdSADHEdRESHdSHINdTAWdLESHcCOMBINING DOT ABOVEeBELOWdTWO DOTS ABOVEfBELOW
cPUNCTUATION BARdTWO BARSeDOTSdFOUR DOTS"),
  (0x10FB0, "aCHORASMIAN LETTER ALEPHcSMALL ALEPHcBETHcGIMELcDALETHcHEcWAWcCURLED WAWcZAYINcHETH
cYODHcKAPHcLAMEDHcMEMcNUNcSAMEKHcAYINcPEcRESHcSHINcTAWbNUMBER ONEcTWOcTHREEcFOURcTENcTWENTY
cONE HUNDRED"),
  (0x10FE0, "aELYMAIC LETTER ALEPHcBETHcGIMELcDALETHcHEcWAWcZAYINcHETHcTETHcYODHcKAPHcLAMEDHcMEM
cNUNcSAMEKHcAYINcPEcSADHEcQOPHcRESHcSHINcTAWbLIGATURE ZAYIN-YODH"),
  (0x11000, "aBRAHMI SIGN CANDRABINDUcANUSVARAcVISARGAcJIHVAMULIYAcUPADHMANIYAbLETTER AcAAcIcII
cUcUUcVOCALIC RdRRdLdLLcEcAIcOcAUcKAcKHAcGAcGHAcNGAcCAcCHAcJAcJHAcNYAcTTAcTTHAcDDAcDDHAcNNAcTA
cTHAcDAcDHAcNAcPAcPHAcBAcBHAcMAcYAcRAcLAcVAcSHAcSSAcSAcHAcLLAcOLD TAMIL LLLAeRRAeNNNA
bVOWEL SIGN AAdBHATTIPROLU AAdIdIIdUdUUdVOCALIC ReRReLeLLdEdAIdOdAUbVIRAMAbDANDAbDOUBLE DANDA
bPUNCTUATION DOTcDOUBLE DOTcLINEcCRESCENT BARcLOTUS"),
  (0x11052, "aBRAHMI NUMBER ONEcTWOcTHREEcFOURcFIVEcSIXcSEVENcEIGHTcNINEcTENcTWENTYcTHIRTYcFORTY
cFIFTYcSIXTYcSEVENTYcEIGHTYcNINETYcONE HUNDREDdTHOUSANDbDIGIT ZEROcONEcTWOcTHREEcFOURcFIVEcSIX
cSEVENcEIGHTcNINEbSIGN OLD TAMIL VIRAMAbLETTER OLD TAMIL SHORT EfObVOWEL SIGN OLD TAMIL SHORT E
gObLETTER OLD TAMIL LLA"),
  (0x1107F, "aBRAHMI NUMBER JOINERaKAITHI SIGN CANDRABINDUcANUSVARAcVISARGAbLETTER AcAAcIcIIcU
cUUcEcAIcOcAUcKAcKHAcGAcGHAcNGAcCAcCHAcJAcJHAcNYAcTTAcTTHAcDDAcDDDHAcDDHAcRHAcNNAcTAcTHAcDAcDHA
cNAcPAcPHAcBAcBHAcMAcYAcRAcLAcVAcSHAcSSAcSAcHAbVOWEL SIGN AAdIdIIdUdUUdEdAIdOdAUbSIGN VIRAMA
cNUKTAbABBREVIATION SIGNbENUMERATION SIGNbNUMBER SIGNbSECTION MARKbDOUBLE SECTION MARKbDANDA
bDOUBLE DANDAbVOWEL SIGN VOCALIC R"),
  (0x110CD, "aKAITHI NUMBER SIGN ABOVE"),
  (0x110D0, "aSORA SOMPENG LETTER SAHdTAHdBAHdCAHdDAHdGAHdMAHdNGAHdLAHdNAHdVAHdPAHdYAHdRAHdHAH
dKAHdJAHdNYAHdAHdEEHdIHdUHdOHdEHdMAE"),
  (0x110F0, "aSORA SOMPENG DIGIT ZEROdONEdTWOdTHREEdFOURdFIVEdSIXdSEVENdEIGHTdNINE"),
  (0x11100, "aCHAKMA SIGN CANDRABINDUcANUSVARAcVISARGAbLETTER AAcIcUcEcKAAcKHAAcGAAcGHAAcNGAA
cCAAcCHAAcJAAcJHAAcNYAAcTTAAcTTHAAcDDAAcDDHAAcNNAAcTAAcTHAAcDAAcDHAAcNAAcPAAcPHAAcBAAcBHAAcMAA
cYYAAcYAAcRAAcLAAcWAAcSAAcHAAbVOWEL SIGN AdIdIIdUdUUdEdAIdOdAUdOIbO MARKbAU MARKbVIRAMAbMAAYYAA"),
  (0x11136, "aCHAKMA DIGIT ZEROcONEcTWOcTHREEcFOURcFIVEcSIXcSEVENcEIGHTcNINEbSECTION MARKbDANDA
bDOUBLE DANDAbQUESTION MARKbLETTER LHAAbVOWEL SIGN AAdEIbLETTER VAA"),
  (0x11150, "aMAHAJANI LETTER AcIcUcEcOcKAcKHAcGAcGHAcCAcCHAcJAcJHAcNYAcTTAcTTHAcDDAcDDHAcNNAcTA
cTHAcDAcDHAcNAcPAcPHAcBAcBHAcMAcRAcLAcVAcSAcHAcRRAbSIGN NUKTAbABBREVIATION SIGNbSECTION MARK
bLIGATURE SHRI"),
  (0x11180, "aSHARADA SIGN CANDRABINDUcANUSVARAcVISARGAbLETTER AcAAcIcIIcUcUUcVOCALIC RdRRdLdLL
cEcAIcOcAUcKAcKHAcGAcGHAcNGAcCAcCHAcJAcJHAcNYAcTTAcTTHAcDDAcDDHAcNNAcTAcTHAcDAcDHAcNAcPAcPHAcBA
cBHAcMAcYAcRAcLAcLLAcVAcSHAcSSAcSAcHAbVOWEL SIGN AAdIdIIdUdUUdVOCALIC ReRReLeLLdEdAIdOdAU
bSIGN VIRAMAcAVAGRAHAcJIHVAMULIYAcUPADHMANIYAbOMbDANDAbDOUBLE DANDAbABBREVIATION SIGNbSEPARATOR
bSANDHI MARKbSIGN NUKTAbVOWEL MODIFIER MARKbEXTRA SHORT VOWEL MARKbSUTRA MARK
bVOWEL SIGN PRISHTHAMATRA EbSIGN INVERTED CANDRABINDUbDIGIT ZEROcONEcTWOcTHREEcFOURcFIVEcSIX
cSEVENcEIGHTcNINEbEKAMbSIGN SIDDHAMbHEADSTROKEbCONTINUATION SIGNbSECTION MARK-1cMARK-2"),
  (0x111E1, "aSINHALA ARCHAIC DIGIT ONEdTWOdTHREEdFOURdFIVEdSIXdSEVENdEIGHTdNINEcNUMBER TEN
dTWENTYdTHIRTYdFORTYdFIFTYdSIXTYdSEVENTYdEIGHTYdNINETYdONE HUNDREDeTHOUSAND"),
  (0x11200, "aKHOJKI LETTER AcAAcIcUcEcAIcOcAUcKAcKHAcGAcGGAcGHAcNGAcCAcCHAcJAcJJA"),
  (0x11213, "aKHOJKI LETTER NYAcTTAcTTHAcDDAcDDHAcNNAcTAcTHAcDAcDDDAcDHAcNAcPAcPHAcBAcBBAcBHAcMA
cYAcRAcLAcVAcSAcHAcLLAbVOWEL SIGN AAdIdIIdUdEdAIdOdAUbSIGN ANUSVARAcVIRAMAcNUKTAcSHADDAbDANDA
bDOUBLE DANDAbWORD SEPARATORbSECTION MARKbDOUBLE SECTION MARKbABBREVIATION SIGNbSIGN SUKUN"),
  (0x11280, "aMULTANI LETTER AcIcUcEcKAcKHAcGA"),
  (0x11288, "aMULTANI LETTER GHA"),
  (0x1128A, "aMULTANI LETTER CAcCHAcJAcJJA"),
  (0x1128F, "aMULTANI LETTER NYAcTTAcTTHAcDDAcDDDAcDDHAcNNAcTAcTHAcDAcDHAcNAcPAcPHAcBA"),
  (0x1129F, "aMULTANI LETTER BHAcMAcYAcRAcLAcVAcSAcHAcRRAcRHAbSECTION MARK"),
  (0x112B0, "aKHUDAWADI LETTER AcAAcIcIIcUcUUcEcAIcOcAUcKAcKHAcGAcGGAcGHAcNGAcCAcCHAcJAcJJAcJHA
cNYAcTTAcTTHAcDDAcDDDAcRRAcDDHAcNNAcTAcTHAcDAcDHAcNAcPAcPHAcBAcBBAcBHAcMAcYAcRAcLAcVAcSHAcSAcHA
bSIGN ANUSVARAbVOWEL SIGN AAdIdIIdUdUUdEdAIdOdAUbSIGN NUKTAcVIRAMA"),
  (0x112F0, "aKHUDAWADI DIGIT ZEROcONEcTWOcTHREEcFOURcFIVEcSIXcSEVENcEIGHTcNINE"),
  (0x11300, "aGRANTHA SIGN COMBINING ANUSVARA ABOVEcCANDRABINDUcANUSVARAcVISARGA"),
  (0x11305, "aGRANTHA LETTER AcAAcIcIIcUcUUcVOCALIC RdL"),
  (0x1130F, "aGRANTHA LETTER EEcAI"),
  (0x11313, "aGRANTHA LETTER OOcAUcKAcKHAcGAcGHAcNGAcCAcCHAcJAcJHAcNYAcTTAcTTHAcDDAcDDHAcNNAcTA
cTHAcDAcDHAcNA"),
  (0x1132A, "aGRANTHA LETTER PAcPHAcBAcBHAcMAcYAcRA"),
  (0x11332, "aGRANTHA LETTER LAcLLA"),
  (0x11335, "aGRANTHA LETTER VAcSHAcSSAcSAcHA"),
  (0x1133B, "aCOMBINING BINDU BELOWaGRANTHA SIGN NUKTAcAVAGRAHAbVOWEL SIGN AAdIdIIdUdUU
dVOCALIC ReRR"),
  (0x11347, "aGRANTHA VOWEL SIGN EEdAI"),
  (0x1134B, "aGRANTHA VOWEL SIGN OOdAUbSIGN VIRAMA"),
  (0x11350, "aGRANTHA OM"),
  (0x11357, "aGRANTHA AU LENGTH MARK"),
  (0x1135D, "aGRANTHA SIGN PLUTAbLETTER VEDIC ANUSVARAdDOUBLE ANUSVARAcVOCALIC RRdLL
bVOWEL SIGN VOCALIC LeLL"),
  (0x11366, "aCOMBINING GRANTHA DIGIT ZEROdONEdTWOdTHREEdFOURdFIVEdSIX"),
  (0x11370, "aCOMBINING GRANTHA LETTER AdKAdNAdVIdPA"),
  (0x11400, "aNEWA LETTER AcAAcIcIIcUcUUcVOCALIC RdRRdLdLLcEcAIcOcAUcKAcKHAcGAcGHAcNGAcNGHAcCA
cCHAcJAcJHAcNYAcNYHAcTTAcTTHAcDDAcDDHAcNNAcTAcTHAcDAcDHAcNAcNHAcPAcPHAcBAcBHAcMAcMHAcYAcRAcRHA
cLAcLHAcWAcSHAcSSAcSAcHAbVOWEL SIGN AAdIdIIdUdUUdVOCALIC ReRReLeLLdEdAIdOdAUbSIGN VIRAMA
cCANDRABINDUcANUSVARAcVISARGAcNUKTAcAVAGRAHAcFINAL ANUSVARAbOMbSIDDHIbDANDAbDOUBLE DANDAbCOMMA
bGAP FILLERbABBREVIATION SIGNbDIGIT ZEROcONEcTWOcTHREEcFOURcFIVEcSIXcSEVENcEIGHTcNINE
bDOUBLE COMMAbPLACEHOLDER MARK"),
  (0x1145D, "aNEWA INSERTION SIGNbSANDHI MARKbLETTER VEDIC ANUSVARAbSIGN JIHVAMULIYAcUPADHMANIYA"),
  (0x11480, "aTIRHUTA ANJIbLETTER AcAAcIcIIcUcUUcVOCALIC RdRRdLdLLcEcAIcOcAUcKAcKHAcGAcGHAcNGA
cCAcCHAcJAcJHAcNYAcTTAcTTHAcDDAcDDHAcNNAcTAcTHAcDAcDHAcNAcPAcPHAcBAcBHAcMAcYAcRAcLAcVAcSHAcSSA
cSAcHAbVOWEL SIGN AAdIdIIdUdUUdVOCALIC ReRReLeLLdEdSHORT EdAIdOdSHORT OdAUbSIGN CANDRABINDU
cANUSVARAcVISARGAcVIRAMAcNUKTAcAVAGRAHAbGVANGbABBREVIATION SIGNbOM"),
  (0x114D0, "aTIRHUTA DIGIT ZEROcONEcTWOcTHREEcFOURcFIVEcSIXcSEVENcEIGHTcNINE"),
  (0x11580, "aSIDDHAM LETTER AcAAcIcIIcUcUUcVOCALIC RdRRdLdLLcEcAIcOcAUcKAcKHAcGAcGHAcNGAcCAcCHA
cJAcJHAcNYAcTTAcTTHAcDDAcDDHAcNNAcTAcTHAcDAcDHAcNAcPAcPHAcBAcBHAcMAcYAcRAcLAcVAcSHAcSSAcSAcHA
bVOWEL SIGN AAdIdIIdUdUUdVOCALIC ReRR"),
  (0x115B8, "aSIDDHAM VOWEL SIGN EdAIdOdAUbSIGN CANDRABINDUcANUSVARAcVISARGAcVIRAMAcNUKTA
cSIDDHAMbDANDAbDOUBLE DANDAbSEPARATOR DOTcBARbREPETITION MARK-1cMARK-2cMARK-3bEND OF TEXT MARK
bSECTION MARK WITH TRIDENT AND U-SHAPED ORNAMENTSgDOTTED CRESCENTSeRAYS AND DOTTED CRESCENTS
hDOUBLE CRESCENTShTRIPLE CRESCENTSdDOUBLE RINGfWITH RAYSdWITH DOUBLE CRESCENTSeTRIPLE CRESCENTS
eQUADRUPLE CRESCENTSeSEPTUPLE CRESCENTSeCIRCLES AND RAYSgTWO ENCLOSURESgFOUR ENCLOSURES
bLETTER THREE-CIRCLE ALTERNATE IcTWO-CIRCLE ALTERNATE IeIIcALTERNATE UbVOWEL SIGN ALTERNATE UeUU"),
  (0x11600, "aMODI LETTER AcAAcIcIIcUcUUcVOCALIC RdRRdLdLLcEcAIcOcAUcKAcKHAcGAcGHAcNGAcCAcCHAcJA
cJHAcNYAcTTAcTTHAcDDAcDDHAcNNAcTAcTHAcDAcDHAcNAcPAcPHAcBAcBHAcMAcYAcRAcLAcVAcSHAcSSAcSAcHAcLLA
bVOWEL SIGN AAdIdIIdUdUUdVOCALIC ReRReLeLLdEdAIdOdAUbSIGN ANUSVARAcVISARGAcVIRAMAcARDHACANDRA
bDANDAbDOUBLE DANDAbABBREVIATION SIGNbSIGN HUVA"),
  (0x11650, "aMODI DIGIT ZEROcONEcTWOcTHREEcFOURcFIVEcSIXcSEVENcEIGHTcNINE"),
  (0x11660, "aMONGOLIAN BIRGA WITH ORNAMENTbROTATED BIRGAbDOUBLE BIRGA WITH ORNAMENT
bTRIPLE BIRGA WITH ORNAMENTbBIRGA WITH DOUBLE ORNAMENTbROTATED BIRGA WITH ORNAMENT
eDOUBLE ORNAMENTbINVERTED BIRGAdWITH DOUBLE ORNAMENTbSWIRL BIRGAdWITH ORNAMENTeDOUBLE ORNAMENT
bTURNED SWIRL BIRGA WITH DOUBLE ORNAMENT"),
  (0x11680, "aTAKRI LETTER AcAAcIcIIcUcUUcEcAIcOcAUcKAcKHAcGAcGHAcNGAcCAcCHAcJAcJHAcNYAcTTAcTTHA
cDDAcDDHAcNNAcTAcTHAcDAcDHAcNAcPAcPHAcBAcBHAcMAcYAcRAcLAcVAcSHAcSAcHAcRRAbSIGN ANUSVARAcVISARGA
bVOWEL SIGN AAdIdIIdUdUUdEdAIdOdAUbSIGN VIRAMAcNUKTAbLETTER ARCHAIC KHAbABBREVIATION SIGN"),
  (0x116C0, "aTAKRI DIGIT ZEROcONEcTWOcTHREEcFOURcFIVEcSIXcSEVENcEIGHTcNINE"),
  (0x11700, "aAHOM LETTER KAcKHAcNGAcNAcTAcALTERNATE TAcPAcPHAcBAcMAcJAcCHAcTHAcRAcLAcSAcNYAcHA
cAcDAcDHAcGAcALTERNATE GAcGHAcBHAcJHAcALTERNATE BA"),
  (0x1171D, "aAHOM CONSONANT SIGN MEDIAL LAeRAeLIGATING RAbVOWEL SIGN AdAAdIdIIdUdUUdEdAWdOdAI
dAMbSIGN KILLER"),
  (0x11730, "aAHOM DIGIT ZEROcONEcTWOcTHREEcFOURcFIVEcSIXcSEVENcEIGHTcNINEbNUMBER TENcTWENTY
bSIGN SMALL SECTIONcSECTIONcRULAIbSYMBOL VIbLETTER CAcTTAcTTHAcDDAcDDHAcNNAcLLA"),
  (0x11800, "aDOGRA LETTER AcAAcIcIIcUcUUcEcAIcOcAUcKAcKHAcGAcGHAcNGAcCAcCHAcJAcJHAcNYAcTTAcTTHA
cDDAcDDHAcNNAcTAcTHAcDAcDHAcNAcPAcPHAcBAcBHAcMAcYAcRAcLAcVAcSHAcSSAcSAcHAcRRAbVOWEL SIGN AAdIdII
dUdUUdVOCALIC ReRRdEdAIdOdAUbSIGN ANUSVARAcVISARGAcVIRAMAcNUKTAbABBREVIATION SIGN"),
  (0x118A0, "aWARANG CITI CAPITAL LETTER NGAAeAeWIeYUeYAeYOeIIeUUeEeOeANGeGAeKOeENYeYUJeUCeENN
eODDeTTEeNUNGeDAeATeAMeBUePUeHIYOeHOLOeHORReHAReSSUUeSIIeVIYOcSMALL LETTER NGAAeAeWIeYUeYAeYOeII
eUUeEeOeANGeGAeKOeENYeYUJeUCeENNeODDeTTEeNUNGeDAeATeAMeBUePUeHIYOeHOLOeHORReHAReSSUUeSIIeVIYO
cDIGIT ZEROdONEdTWOdTHREEdFOURdFIVEdSIXdSEVENdEIGHTdNINEcNUMBER TENdTWENTYdTHIRTYdFORTYdFIFTY
dSIXTYdSEVENTYdEIGHTYdNINETY"),
  (0x118FF, "aWARANG CITI OMaDIVES AKURU LETTER AdAAdIdIIdUdUUdE"),
  (0x11909, "aDIVES AKURU LETTER O"),
  (0x1190C, "aDIVES AKURU LETTER KAdKHAdGAdGHAdNGAdCAdCHAdJA"),
  (0x11915, "aDIVES AKURU LETTER NYAdTTA"),
  (0x11918, "aDIVES AKURU LETTER DDAdDDHAdNNAdTAdTHAdDAdDHAdNAdPAdPHAdBAdBHAdMAdYAdYYAdRAdLAdVA
dSHAdSSAdSAdHAdLLAdZAcVOWEL SIGN AAeIeIIeUeUUeE"),
  (0x11937, "aDIVES AKURU VOWEL SIGN AIeO"),
  (0x1193B, "aDIVES AKURU SIGN ANUSVARAdCANDRABINDUdHALANTAcVIRAMAcPREFIXED NASAL SIGNcMEDIAL YA
cINITIAL RAcMEDIAL RAcSIGN NUKTAcDOUBLE DANDAcGAP FILLERcEND OF TEXT MARK"),
  (0x11950, "aDIVES AKURU DIGIT ZEROdONEdTWOdTHREEdFOURdFIVEdSIXdSEVENdEIGHTdNINE"),
  (0x119A0, "aNANDINAGARI LETTER AcAAcIcIIcUcUUcVOCALIC RdRR"),
  (0x119AA, "aNANDINAGARI LETTER EcAIcOcAUcKAcKHAcGAcGHAcNGAcCAcCHAcJAcJHAcNYAcTTAcTTHAcDDAcDDHA
cNNAcTAcTHAcDAcDHAcNAcPAcPHAcBAcBHAcMAcYAcRAcLAcVAcSHAcSSAcSAcHAcLLAcRRAbVOWEL SIGN AAdIdIIdUdUU
dVOCALIC ReRR"),
  (0x119DA, "aNANDINAGARI VOWEL SIGN EdAIdOdAUbSIGN ANUSVARAcVISARGAcVIRAMAcAVAGRAHAcSIDDHAM
bHEADSTROKEbVOWEL SIGN PRISHTHAMATRA E"),
  (0x11A00, "aZANABAZAR SQUARE LETTER AcVOWEL SIGN IeUEeUeEeOEeOeAIeAUeREVERSED IdLENGTH MARK
cLETTER KAdKHAdGAdGHAdNGAdCAdCHAdJAdNYAdTTAdTTHAdDDAdDDHAdNNAdTAdTHAdDAdDHAdNAdPAdPHAdBAdBHAdMA
dTSAdTSHAdDZAdDZHAdZHAdZAd-AdYAdRAdLAdVAdSHAdSSAdSAdHAdKSSAcFINAL CONSONANT MARKcSIGN VIRAMA
dCANDRABINDUeWITH ORNAMENTdCANDRA WITH ORNAMENTdANUSVARAdVISARGAcCLUSTER-INITIAL LETTER RA
cCLUSTER-FINAL LETTER YAeRAeLAeVAcINITIAL HEAD MARKcCLOSING HEAD MARKcMARK TSHEGdSHAD
dDOUBLE SHADdLONG TSHEGcINITIAL DOUBLE-LINED HEAD MARKcCLOSING DOUBLE-LINED HEAD MARKcSUBJOINER"),
  (0x11A50, "aSOYOMBO LETTER AbVOWEL SIGN IdUEdUdEdOdOEdAIdAUdVOCALIC ReLcLENGTH MARKbLETTER KA
cKHAcGAcGHAcNGAcCAcCHAcJAcJHAcNYAcTTAcTTHAcDDAcDDHAcNNAcTAcTHAcDAcDHAcNAcPAcPHAcBAcBHAcMAcTSA
cTSHAcDZAcZHAcZAc-AcYAcRAcLAcVAcSHAcSSAcSAcHAcKSSAbSIGN JIHVAMULIYAcUPADHMANIYA
bCLUSTER-INITIAL LETTER RAdLAdSHAdSAbFINAL CONSONANT SIGN GeKeNGeDeNeBeMeReLeSHeSe-A
bSIGN ANUSVARAcVISARGAbGEMINATION MARKbSUBJOINERbMARK TSHEGcSHADcDOUBLE SHADcPLUTA
bHEAD MARK WITH MOON AND SUN AND TRIPLE FLAMEiFLAMEhbTERMINAL MARK-1cMARK-2"),
  (0x11AB0, "aCANADIAN SYLLABICS NATTILIK HIdHIIdHOdHOOdHAdHAAdSHRIdSHRIIdSHROdSHROOdSHRAdSHRAA
cSPEcSPIcSPOcSPAaPAU CIN HAU LETTER PAeKAeLAeMAeDAeZAeVAeNGAeHAeGAeKHAeSAeBAeCAeTAeTHAeNAePHAeRA
eFAeCHAeAeEeIeOeUeUAeIAeFINAL PfKfTfMfNfLfWfNGfYdRISING TONE LONGfdSANDHI GLOTTAL STOP
dRISING TONE LONG FINALfFINALdSANDHI GLOTTAL STOP FINALeTONE LONGffLONG FINALfFINAL
dMID-LEVEL TONEdGLOTTAL STOP VARIANTdMID-LEVEL TONE LONG FINALfFINALdLOW-FALLING TONE LONGf
dGLOTTAL STOPdLOW-FALLING TONE LONG FINALfFINALdGLOTTAL STOP FINAL"),
  (0x11C00, "aBHAIKSUKI LETTER AcAAcIcIIcUcUUcVOCALIC RdRRdL"),
  (0x11C0A, "aBHAIKSUKI LETTER EcAIcOcAUcKAcKHAcGAcGHAcNGAcCAcCHAcJAcJHAcNYAcTTAcTTHAcDDAcDDHA
cNNAcTAcTHAcDAcDHAcNAcPAcPHAcBAcBHAcMAcYAcRAcLAcVAcSHAcSSAcSAcHAbVOWEL SIGN AAdIdIIdUdUU
dVOCALIC ReRReL"),
  (0x11C38, "aBHAIKSUKI VOWEL SIGN EdAIdOdAUbSIGN CANDRABINDUcANUSVARAcVISARGAcVIRAMAcAVAGRAHA
bDANDAbDOUBLE DANDAbWORD SEPARATORbGAP FILLER-1cFILLER-2"),
  (0x11C50, "aBHAIKSUKI DIGIT ZEROcONEcTWOcTHREEcFOURcFIVEcSIXcSEVENcEIGHTcNINEbNUMBER ONEcTWO
cTHREEcFOURcFIVEcSIXcSEVENcEIGHTcNINEcTENcTWENTYcTHIRTYcFORTYcFIFTYcSIXTYcSEVENTYcEIGHTYcNINETY
bHUNDREDS UNIT MARK"),
  (0x11C70, "aMARCHEN HEAD MARKbMARK SHADbLETTER KAcKHAcGAcNGAcCAcCHAcJAcNYAcTAcTHAcDAcNAcPAcPHA
cBAcMAcTSAcTSHAcDZAcWAcZHAcZAc-AcYAcRAcLAcSHAcSAcHAcA"),
  (0x11C92, "aMARCHEN SUBJOINED LETTER KAdKHAdGAdNGAdCAdCHAdJAdNYAdTAdTHAdDAdNAdPAdPHAdBAdMAdTSA
dTSHAdDZAdWAdZHAdZA"),
  (0x11CA9, "aMARCHEN SUBJOINED LETTER YAdRAdLAdSHAdSAdHAdAbVOWEL SIGN AAdIdUdEdObSIGN ANUSVARA
cCANDRABINDU"),
  (0x11D00, "aMASARAM GONDI LETTER AdAAdIdIIdUdUUdE"),
  (0x11D08, "aMASARAM GONDI LETTER AIdO"),
  (0x11D0B, "aMASARAM GONDI LETTER AUdKAdKHAdGAdGHAdNGAdCAdCHAdJAdJHAdNYAdTTAdTTHAdDDAdDDHAdNNA
dTAdTHAdDAdDHAdNAdPAdPHAdBAdBHAdMAdYAdRAdLAdVAdSHAdSSAdSAdHAdLLAdKSSAdJNYAdTRAcVOWEL SIGN AAeI
eIIeUeUUeVOCALIC R"),
  (0x11D3A, "aMASARAM GONDI VOWEL SIGN E"),
  (0x11D3C, "aMASARAM GONDI VOWEL SIGN AIeO"),
  (0x11D3F, "aMASARAM GONDI VOWEL SIGN AUcSIGN ANUSVARAdVISARGAdNUKTAdCANDRAdHALANTAcVIRAMA
cREPHAcRA-KARA"),
  (0x11D50, "aMASARAM GONDI DIGIT ZEROdONEdTWOdTHREEdFOURdFIVEdSIXdSEVENdEIGHTdNINE"),
  (0x11D60, "aGUNJALA GONDI LETTER AdAAdIdIIdUdUU"),
  (0x11D67, "aGUNJALA GONDI LETTER EEdAI"),
  (0x11D6A, "aGUNJALA GONDI LETTER OOdAUdYAdVAdBAdBHAdMAdKAdKHAdTAdTHAdLAdGAdGHAdDAdDHAdNAdCA
dCHAdTTAdTTHAdLLAdJAdJHAdDDAdDDHAdNGAdPAdPHAdHAdRAdSAcVOWEL SIGN AAeIeIIeUeUU"),
  (0x11D90, "aGUNJALA GONDI VOWEL SIGN EEeAI"),
  (0x11D93, "aGUNJALA GONDI VOWEL SIGN OOeAUcSIGN ANUSVARAdVISARGAcVIRAMAcOM"),
  (0x11DA0, "aGUNJALA GONDI DIGIT ZEROdONEdTWOdTHREEdFOURdFIVEdSIXdSEVENdEIGHTdNINE"),
  (0x11EE0, "aMAKASAR LETTER KAcGAcNGAcPAcBAcMAcTAcDAcNAcCAcJAcNYAcYAcRAcLAcVAcSAcAbANGKA
bVOWEL SIGN IdUdEdObPASSIMBANGbEND OF SECTION"),
  (0x11FB0, "aLISU LETTER YHA"),
  (0x11FC0, "aTAMIL FRACTION ONE THREE-HUNDRED-AND-TWENTIETHdONE-HUNDRED-AND-SIXTIETHdEIGHTIETH
dSIXTY-FOURTHdFORTIETHdTHIRTY-SECONDcTHREE EIGHTIETHSdSIXTY-FOURTHScONE TWENTIETHdSIXTEENTH-1
dSIXTEENTH-2dTENTHdEIGHTHcTHREE TWENTIETHSdSIXTEENTHScONE FIFTHdQUARTERdHALF-1dHALF-2
cTHREE QUARTERScDOWNSCALING FACTOR KIIZHbSIGN NELcCEVITUcAAZHAAKKUcUZHAKKUcMUUVUZHAKKUcKURUNI
cPATHAKKUcMUKKURUNIcKAACUcPANAMcPONcVARAAKANcPAARAMcKUZHIcVELIbWET CULTIVATION SIGN
bDRY CULTIVATION SIGNbLAND SIGNbSALT PAN SIGNbTRADITIONAL CREDIT SIGNcNUMBER SIGNbCURRENT SIGN
bAND ODD SIGNbSPENT SIGNbTOTAL SIGNbIN POSSESSION SIGNbSTARTING FROM SIGNbSIGN MUTHALIYA
cVAKAIYARAA"),
  (0x11FFF, "aTAMIL PUNCTUATION END OF TEXTaCUNEIFORM SIGN AdTIMES AeBADeGAN2 TENUeHAeIGI
eLAGAR GUNUeMUSHeSAGcA2cABdTIMES ASH2eDUN3 GUNUeGALeGAN2 TENUeHAeIGI GUNUeIMINeLAGABeSHESH
eU PLUS U PLUS UdGUNUcAB2dTIMES BALAGeGAN2 TENUeME PLUS ENeSHA3eTAK4cADcAKdTIMES ERIN2
eSHITA PLUS GISHcALdTIMES ALeDIM2eGISHeHAeKAD3eKIeSHEeUSHcALANcALEPHcAMARdTIMES SHEcANdOVER AN
dTHREE TIMESdPLUS NAGA OPPOSING AN PLUS NAGAfSQUAREDcANSHEcAPINcARADdTIMES KURcARKABcASAL2cASH
dZIDA TENUdKABA TENUdOVER ASH TUG2 OVER TUG2 TUG2 OVER TUG2 PAPfOVER ASH
hCROSSING ASH OVER ASH OVER ASHcASH2cASHGABcBAcBADcBAG3cBAHAR2cBALdOVER BALcBALAGcBARcBARA2cBI
dTIMES AeGAReIGI GUNUcBUdOVER BU ABfUNdCROSSING BUcBULUGdOVER BULUGcBURcBUR2cDAcDAG
dKISIM5 TIMES A PLUS MASHfAMARfBALAGfBIfGAgPLUS MASHfGIfGIR2fGUDfHAfIRgPLUS LUfKAKfLAfLU
gPLUS MASH2fLUMfNEfPAP PLUS PAPfSIfTAK4fU2 PLUS GIR2fUSHcDAMcDARcDARA3cDARA4cDIcDIBcDIM
dTIMES SHEcDIM2cDINdKASKAL U GUNU DISHcDISHcDUdOVER DUdGUNUdSHESHIGcDUBdTIMES ESH2cDUB2cDUG
cDUGUDcDUHcDUNcDUN3dGUNUeGUNUcDUN4cDUR2cEdTIMES PAPdOVER E NUN OVER NUNcE2
dTIMES A PLUS HA PLUS DAeGAReMIeSALeSHEeUcEDINcEGIRcELcENdTIMES GAN2fTENUeMEdCROSSING EN
dOPPOSING ENdSQUAREDcERENcERIN2cESH2cEZENdTIMES AfPLUS LALhTIMES LALeANeBADeDUN3 GUNUgGUNUeHA
fGUNUeIGI GUNUeKASKALfSQUAREDeKU3eLAeLAL TIMES LALeLIeLUeU2eUDcGAdGUNUcGA2
dTIMES A PLUS DA PLUS HAgHAgIGIeAB2 TENU PLUS TABeANeASHeASH2 PLUS GALeBADeBAR PLUS RAeBUR
fPLUS RAeDAeDIeDIM TIMES SHEeDUBeELfPLUS LAeENfTIMES GAN2 TENUeGAN2 TENUeGAReGIeGI4fPLUS A
eGIR2 PLUS SUeHA PLUS LU PLUS ESH2eHALfPLUS LAeHI PLUS LIeHUB2eIGI GUNUeISH PLUS HU PLUS ASHeKAK
eKASKALeKIDfPLUS LALeKU3 PLUS ANeLAeME PLUS ENeMIeNUNfOVER NUNePAeSALeSAReSHEfPLUS TUReSHIDeSUM
eTAK4eUeUDfPLUS DUdOVER GA2cGABAdCROSSING GABAcGADdOVER GAD GAR OVER GARcGAL
dGAD OVER GAD GAR OVER GARcGALAMcGAMcGANcGAN2dTENUdOVER GAN2dCROSSING GAN2cGARcGAR3cGASHAN
cGESHTINdTIMES KURcGIdTIMES EeUdCROSSING GIcGI4dOVER GI4dCROSSING GI4cGIDIMcGIR2dGUNUcGIR3
dTIMES A PLUS IGIeGAN2 TENUeIGIeLU PLUS IGIePAcGISALcGISHdCROSSING GISHdTIMES BADeTAK4dTENUcGU
dCROSSING GUcGU2dTIMES KAKfTIMES IGI GUNUeNUNeSAL PLUS TUG2dGUNUcGUDdTIMES A PLUS KUReKUR
dOVER GUD LUGALcGULcGUMdTIMES SHEcGURcGUR7cGURUNcGURUSHcHAdTENUdGUNUcHALcHIdTIMES ASHeASH2eBAD
eDISHeGADeKINeNUNeSHEeUcHUcHUB2dTIMES ANeHALeKASKALeLISHeUDcHUL2cIdAcIBcIDIMdOVER IDIM BUR
fSQUAREDcIGcIGIdDIBdRIdOVER IGI SHIR OVER SHIR UD OVER UDdGUNUcILdTIMES GAN2 TENUcIL2cIM
dTIMES TAK4dCROSSING IMdOPPOSING IMdSQUAREDcIMINcINcIRcISHcKAdTIMES AeADfPLUS KU3eASH2eBADeBALAG
eBAReBIeERIN2eESH2eGAeGALeGAN2 TENUeGARfPLUS SHA3 PLUS AeGIeGIR2eGISH PLUS SARfCROSSING GISHeGU
eGUR7eIGIeIMeKAKeKIeKIDeLIeLUeMEfPLUS DUgGIgTEeMIfPLUS NUNUZeNEeNUNePIeRUeSAeSAReSHAeSHEeSHID
eSHUeSIGeSUHUReTAReUeU2eUDeUMUM TIMES PAeUSHeZIcKA2dCROSSING KA2cKABcKAD2cKAD3cKAD4cKAD5
dOVER KAD5cKAKdTIMES IGI GUNUcKALdTIMES BADdCROSSING KALcKAM2cKAM4cKASKAL
dLAGAB TIMES U OVER LAGAB TIMES UdOVER KASKAL LAGAB TIMES U OVER LAGAB TIMES UcKESH2cKI
dTIMES BADeUeUDcKIDcKINcKISALcKISHcKISIM5dOVER KISIM5cKU
dOVER HI TIMES ASH2 KU OVER HI TIMES ASH2cKU3cKU4dVARIANT FORMcKU7cKULdGUNUcKUNcKURdOPPOSING KUR
cKUSHU2cKWU318cLAcLAGABdTIMES AfPLUS DA PLUS HAgGARgLALeALeANeASH ZIDA TENUeBADeBIeDAReENeGAeGAR
eGUDfPLUS GUDeHAeHALeHI TIMES NUNeIGI GUNUeIMfPLUS HAgLUeKIeKINeKU3eKULfPLUS HI PLUS AeLAGAB
eLISHeLUeLULeMEfPLUS ENeMUSHeNEeSHE PLUS SUMeSHITA PLUS GISH PLUS ERIN2hTENUeSHU2fPLUS SHU2eSUM
eTAGeTAK4eTE PLUS A PLUS SU PLUS NAeUfPLUS AgU PLUS UeU2 PLUS ASHeUDeUSHdSQUAREDcLAGARdTIMES SHE
fPLUS SUMdGUNUeOVER LAGAR GUNU SHEcLAHSHUcLALdTIMES LALcLAMdTIMES KURfPLUS RUcLIcLILcLIMMU2cLISH
cLUdTIMES BADcLU2dTIMES ALeBADeESH2fTENUeGAN2 TENUeHI TIMES BADeIMeKAD2eKAD3fPLUS ASHeKI
eLA PLUS ASHeLAGABeME PLUS ENeNEeNUeSI PLUS ASHeSIK2 PLUS BUeTUG2dTENUdCROSSING LU2dOPPOSING LU2
dSQUAREDdSHESHIGcLU3cLUGALdOVER LUGALdOPPOSING LUGALdSHESHIGcLUHcLULcLUMdOVER LUMfGAR OVER GAR
cMAdTIMES TAK4dGUNUcMA2cMAHcMARcMASHcMASH2cMEcMEScMIcMINcMUdOVER MUcMUGdGUNUcMUNSUBcMURGU2cMUSH
dTIMES AeKUReZAdOVER MUSHfTIMES A PLUS NAdCROSSING MUSHcMUSH3dTIMES AfPLUS DIeDIdGUNUcNAcNA2
cNAGAdINVERTEDdTIMES SHU TENUdOPPOSING NAGAcNAGARcNAM NUTILLUdcNAM2cNEdTIMES AeUDdSHESHIGcNI
dTIMES EcNI2cNIMdTIMES GAN2 TENUeGAR PLUS GAN2 TENUcNINDA2dTIMES ANeASHfPLUS ASHeGUD
eME PLUS GAN2 TENUeNEeNUNeSHEfPLUS A ANgASHhPLUS ASHeU2 PLUS ASHeUSHcNISAGcNUcNU11cNUN
dLAGAR TIMES GARfMASHfSALgOVER NUN LAGAR TIMES SALfUSHdTENUdOVER NUNdCROSSING NUN
fLAGAR OVER LAGARcNUNUZdAB2 TIMES ASHGABfBIfDUGfGUDfIGI GUNUfKAD3fLAfNEfSILA3fU2dKISIM5 TIMES BI
gUcPAcPADcPANcPAPcPESH2cPIdTIMES AeABeBIeBUeEeIeIBeUeU2dCROSSING PIcPIRIGdTIMES KALeUDeZA
dOPPOSING PIRIGcRAcRABcRIcRUcSAcSAG NUTILLUddTIMES AeDUeDUBeHAeKAKeKUReLUMeMIeNUNeSALeSHIDeTAB
eU2eUBeUMeUReUSHdOVER SAGdGUNUcSALdLAGAB TIMES ASH2cSANGA2cSARcSHAcSHA3dTIMES AeBADeGISHeNEeSHU2
eTUReUfPLUS AcSHA6cSHAB6cSHAR2cSHEdHUdOVER SHE GAD OVER GAD GAR OVER GAR
fTAB OVER TAB GAR OVER GARcSHEG9cSHENcSHESHcSHESH2cSHESHLAMcSHIDdTIMES AeIMcSHIMdTIMES AeBAL
eBULUGeDINeGAReIGIfGUNUeKUSHU2eLULeMUGeSALcSHINIGcSHIRdTENUdOVER SHIR BUR OVER BURcSHITAcSHU
dOVER INVERTED SHUcSHU2cSHUBURcSIdGUNUcSIGcSIG4dOVER SIG4 SHU2cSIK2cSILA3cSUdOVER SUcSUDcSUD2
cSUHURcSUMcSUMASHcSURcSUR9cTAdASTERISKdTIMES HIeMIdGUNUcTABdOVER TAB NI OVER NI DISH OVER DISH
dSQUAREDcTAGdTIMES BIeGUDeSHEeSHUeTUG2eUDcTAK4cTARcTEdGUNUcTIdTENUcTILcTIRdTIMES TAK4dOVER TIR
fGAD OVER GAD GAR OVER GARcTUcTUG2cTUKcTUMcTURdOVER TUR ZA OVER ZAcUdGUDdU U
dOVER U PA OVER PA GAR OVER GARfSUR OVER SURfU REVERSED OVER U REVERSEDcU2cUBcUDdKUSHU2
dTIMES BADeMIeU PLUS U PLUS UjGUNUdGUNUdSHESHIGeTIMES BADcUDUGcUMdTIMES LAGABeME PLUS DAeSHA3eU
cUMBINcUMUMdTIMES KASKALePAcUNdGUNUcURdCROSSING URdSHESHIGcUR2dTIMES A PLUS HAgNAeALeHAeNUNeU2
fPLUS ASHgBIcUR4cURIcURI3cURUdTIMES AeASHGABeBAReDUNeGAeGALeGAN2 TENUeGAReGUeHAeIGIeIMeISHeKI
eLUMeMINePAeSHEeSIG4eTUeU PLUS GUDeUDeURUDAcURUDAdTIMES UcUSHdTIMES AeKUeKUReTAK4cUSHXcUSH2
cUSHUMXcUTUKIcUZ3dTIMES KASKALcUZUcZAdTENUdSQUARED TIMES KURcZAGcZAMXcZE2cZIdOVER ZIcZI3cZIB
dKABA TENUcZIGcZIZ2cZUcZU5dTIMES AcZUBURcZUMcKAP ELAMITEcAB TIMES NUNcAB2 TIMES AcAMAR TIMES KUG
cDAG KISIM5 TIMES U2 PLUS MASHcDAG3cDISH PLUS SHUcDUB TIMES SHEcEZEN TIMES GUDeSHE
cGA2 TIMES AN PLUS KAK PLUS AeASH2cGE22cGIGcHUSHcKA TIMES ANSHEeASH3eGISHeGUDeHI TIMES ASH2eLUM
ePAeSHULeTUeUR2cLAGAB TIMES GIcLU2 SHESHIG TIMES BADdTIMES ESH2 PLUS LALeSHUcMESHcMUSH3 TIMES ZA
cNA4cNINcNIN9cNINDA2 TIMES BALeGIcNU11 ROTATED NINETY DEGREEScPESH2 ASTERISKcPIR2
cSAG TIMES IGI GUNUcTI2cUM TIMES MEcU U"),
  (0x12400, "aCUNEIFORM NUMERIC SIGN TWO ASHdTHREE ASHdFOUR ASHdFIVE ASHdSIX ASHdSEVEN ASH
dEIGHT ASHdNINE ASHdTHREE DISHdFOUR DISHdFIVE DISHdSIX DISHdSEVEN DISHdEIGHT DISHdNINE DISH
dFOUR UdFIVE UdSIX UdSEVEN UdEIGHT UdNINE UdONE GESH2dTWO GESH2dTHREE GESH2dFOUR GESH2
dFIVE GESH2dSIX GESH2dSEVEN GESH2dEIGHT GESH2dNINE GESH2dONE GESHUdTWO GESHUdTHREE GESHU
dFOUR GESHUdFIVE GESHUdTWO SHAR2dTHREE SHAR2fVARIANT FORMdFOUR SHAR2dFIVE SHAR2dSIX SHAR2
dSEVEN SHAR2dEIGHT SHAR2dNINE SHAR2dONE SHARUdTWO SHARUdTHREE SHARUfVARIANT FORMdFOUR SHARU
dFIVE SHARUdSHAR2 TIMES GAL PLUS DISHhMINdONE BURUdTWO BURUdTHREE BURUfVARIANT FORMdFOUR BURU
dFIVE BURUdTHREE VARIANT FORM ESH16gESH21dFOUR VARIANT FORM LIMMUgLIMMU4gLIMMU AhB
dSIX VARIANT FORM ASH9dSEVEN VARIANT FORM IMIN3gIMIN AhBdEIGHT VARIANT FORM USSUgUSSU3
dNINE VARIANT FORM ILIMMUgILIMMU3gILIMMU4gILIMMU AdTWO ASH TENUdTHREE ASH TENUdFOUR ASH TENU
dFIVE ASH TENUdSIX ASH TENUdONE BAN2dTWO BAN2dTHREE BAN2dFOUR BAN2fVARIANT FORMdFIVE BAN2
fVARIANT FORMdNIGIDAMINdNIGIDAESHdONE ESHE3dTWO ESHE3dONE THIRD DISHdTWO THIRDS DISH
dFIVE SIXTHS DISHdONE THIRD VARIANT FORM AdTWO THIRDS VARIANT FORM AdONE EIGHTH ASHeQUARTER ASH
dOLD ASSYRIAN ONE SIXTHgQUARTERdONE QUARTER GUReHALF GURdELAMITE ONE THIRDeTWO THIRDSeFORTY
eFIFTYdFOUR U VARIANT FORMdFIVE U VARIANT FORMdSIX U VARIANT FORMdSEVEN U VARIANT FORM
dEIGHT U VARIANT FORMdNINE U VARIANT FORM"),
  (0x12470, "aCUNEIFORM PUNCTUATION SIGN OLD ASSYRIAN WORD DIVIDERdVERTICAL COLONdDIAGONAL COLON
eTRICOLONeQUADCOLON"),
  (0x12480, "aCUNEIFORM SIGN AB TIMES NUN TENUeSHU2cAD TIMES ESH2cBAD TIMES DISH TENU
cBAHAR2 TIMES AB2eNIeZAcBU OVER BU TIMES NA2cDA TIMES TAK4cDAG TIMES KURcDIM TIMES IGIeU U U
cDIM2 TIMES UDcDUG TIMES ANSHEeASHfAT LEFTeDINeDUNeERIN2eGAeGIeGIR2 GUNUeGISHeHAeHIeIGI GUNU
eKASKALeKUReKUSHU2fPLUS KASKALeLAK-020eLAMfTIMES KUReLUH PLUS GISHeMASHeMESeMIeNIePIeSHEeSI GUNU
cE2 TIMES KURePAPcERIN2 XcESH2 CROSSING ESH2cEZEN SHESHIG TIMES ASHfHIfIGI GUNUfLAfLALfMEfMESfSU
dTIMES SUcGA2 TIMES BAHAR2eDIM GUNUeDUG TIMES IGI GUNUgKASKALeERENeGAeGAR PLUS DIgNEeHA PLUS A
eKUSHU2 PLUS KASKALeLAMfTIMES KUReLUHeMUSHeNEfPLUS E2gGIeSHIMeZIZ2cGABA ROTATED NINETY DEGREES
cGESHTIN TIMES UcGISH TIMES GISH CROSSING GISHcGU2 TIMES IGI GUNUcGUD PLUS GISH TIMES TAK4
cHA TENU GUNUcHI TIMES ASH OVER HI TIMES ASHcKA TIMES BUeKAeU U UeURcLAGAB TIMES ZU OVER ZU
cLAK-003cLAK-021cLAK-025cLAK-030cLAK-050cLAK-051cLAK-062cLAK-079 OVER LAK-079 GUNUcLAK-080
cLAK-081 OVER LAK-081cLAK-092cLAK-130cLAK-142cLAK-210cLAK-219cLAK-220cLAK-225cLAK-228cLAK-238
cLAK-265cLAK-266cLAK-343cLAK-347cLAK-348cLAK-383cLAK-384cLAK-390cLAK-441cLAK-449dTIMES GUeIGI
ePAP PLUS LU3gPAP PLUS LU3eU2 PLUS BAcLAK-450cLAK-457cLAK-470cLAK-483cLAK-490cLAK-492cLAK-493
cLAK-495cLAK-550cLAK-608cLAK-617dTIMES ASHeBADeDUN3 GUNU GUNUeKU3eLAeTAReTEeU2eUDeURUDAcLAK-636
cLAK-648dTIMES DUBeGAeIGIfGUNUeNIePAP PLUS PAP PLUS LU3eSHESH PLUS KIeUDeURUDAcLAK-724cLAK-749
cLU2 GUNU TIMES ASHdTIMES DISHeHALePAPfPLUS PAP PLUS LU3eTAK4cMI PLUS ZA7
cMUSH OVER MUSH TIMES GAgKAKcNINDA2 TIMES DIM GUNUeGISHeGULeHIeKESH2eLAK-050eMASHePAP PLUS PAPeU
fPLUS UeURUDAcSAG GUNU TIMES HAdTIMES ENeSHE AT LEFTeTAK4cSHA6 TENUcSHE OVER SHEdPLUS HUB2eNAM2
eSARcSHU2 PLUS DUG TIMES NIeE2 TIMES ANcSI TIMES TAK4cTAK4 PLUS SAGcTUM TIMES GAN2 TENU
eTHREE DISHcUR2 INVERTEDdTIMES UDcURU TIMES DARA3eLAK-668eLU3cZA7cZU OVER ZU PLUS SAR
cZU5 TIMES THREE DISH TENU"),
  (0x12F90, "aCYPRO-MINOAN SIGN CM001cCM002cCM004cCM005cCM006cCM007cCM008cCM009cCM010cCM011
cCM012cCM012BcCM013cCM015cCM017cCM019cCM021cCM023cCM024cCM025cCM026cCM027cCM028cCM029cCM030
cCM033cCM034cCM035cCM036cCM037cCM038cCM039cCM040cCM041cCM044cCM046cCM047cCM049cCM050cCM051cCM052
cCM053cCM054cCM055cCM056cCM058cCM059cCM060cCM061cCM062cCM063cCM064cCM066cCM067cCM068cCM069cCM070
cCM071cCM072cCM073cCM074cCM075cCM075BcCM076cCM078cCM079cCM080cCM081cCM082cCM083cCM084cCM085
cCM086cCM087cCM088cCM089cCM090cCM091cCM092cCM094cCM095cCM096cCM097cCM098cCM099cCM100cCM101cCM102
cCM103cCM104cCM105cCM107cCM108cCM109cCM110cCM112cCM114cCM301cCM302"),
  (0x13000, "aEGYPTIAN HIEROGLYPH A001cA002cA003cA004cA005cA005AcA006cA006AcA006BcA007cA008cA009
cA010cA011cA012cA013cA014cA014AcA015cA016cA017cA017AcA018cA019cA020cA021cA022cA023cA024cA025
cA026cA027cA028cA029cA030cA031cA032cA032AcA033cA034cA035cA036cA037cA038cA039cA040cA040AcA041
cA042cA042AcA043cA043AcA044cA045cA045AcA046cA047cA048cA049cA050cA051cA052cA053cA054cA055cA056
cA057cA058cA059cA060cA061cA062cA063cA064cA065cA066cA067cA068cA069cA070cB001cB002cB003cB004cB005
cB005AcB006cB007cB008cB009cC001cC002cC002AcC002BcC002CcC003cC004cC005cC006cC007cC008cC009cC010
cC010AcC011cC012cC013cC014cC015cC016cC017cC018cC019cC020cC021cC022cC023cC024cD001cD002cD003cD004
cD005cD006cD007cD008cD008AcD009cD010cD011cD012cD013cD014cD015cD016cD017cD018cD019cD020cD021cD022
cD023cD024cD025cD026cD027cD027AcD028cD029cD030cD031cD031AcD032cD033cD034cD034AcD035cD036cD037
cD038cD039cD040cD041cD042cD043cD044cD045cD046cD046AcD047cD048cD048AcD049cD050cD050AcD050BcD050C
cD050DcD050EcD050FcD050GcD050HcD050IcD051cD052cD052AcD053cD054cD054AcD055cD056cD057cD058cD059
cD060cD061cD062cD063cD064cD065cD066cD067cD067AcD067BcD067CcD067DcD067EcD067FcD067GcD067HcE001
cE002cE003cE004cE005cE006cE007cE008cE008AcE009cE009AcE010cE011cE012cE013cE014cE015cE016cE016A
cE017cE017AcE018cE019cE020cE020AcE021cE022cE023cE024cE025cE026cE027cE028cE028AcE029cE030cE031
cE032cE033cE034cE034AcE036cE037cE038cF001cF001AcF002cF003cF004cF005cF006cF007cF008cF009cF010
cF011cF012cF013cF013AcF014cF015cF016cF017cF018cF019cF020cF021cF021AcF022cF023cF024cF025cF026
cF027cF028cF029cF030cF031cF031AcF032cF033cF034cF035cF036cF037cF037AcF038cF038AcF039cF040cF041
cF042cF043cF044cF045cF045AcF046cF046AcF047cF047AcF048cF049cF050cF051cF051AcF051BcF051CcF052cF053
cG001cG002cG003cG004cG005cG006cG006AcG007cG007AcG007BcG008cG009cG010cG011cG011AcG012cG013cG014
cG015cG016cG017cG018cG019cG020cG020AcG021cG022cG023cG024cG025cG026cG026AcG027cG028cG029cG030
cG031cG032cG033cG034cG035cG036cG036AcG037cG037AcG038cG039cG040cG041cG042cG043cG043AcG044cG045
cG045AcG046cG047cG048cG049cG050cG051cG052cG053cG054cH001cH002cH003cH004cH005cH006cH006AcH007
cH008cI001cI002cI003cI004cI005cI005AcI006cI007cI008cI009cI009AcI010cI010AcI011cI011AcI012cI013
cI014cI015cK001cK002cK003cK004cK005cK006cK007cK008cL001cL002cL002AcL003cL004cL005cL006cL006A
cL007cL008cM001cM001AcM001BcM002cM003cM003AcM004cM005cM006cM007cM008cM009cM010cM010AcM011cM012
cM012AcM012BcM012CcM012DcM012EcM012FcM012GcM012HcM013cM014cM015cM015AcM016cM016AcM017cM017AcM018
cM019cM020cM021cM022cM022AcM023cM024cM024AcM025cM026cM027cM028cM028AcM029cM030cM031cM031AcM032
cM033cM033AcM033BcM034cM035cM036cM037cM038cM039cM040cM040AcM041cM042cM043cM044cN001cN002cN003
cN004cN005cN006cN007cN008cN009cN010cN011cN012cN013cN014cN015cN016cN017cN018cN018AcN018BcN019
cN020cN021cN022cN023cN024cN025cN025AcN026cN027cN028cN029cN030cN031cN032cN033cN033AcN034cN034A
cN035cN035AcN036cN037cN037AcN038cN039cN040cN041cN042cNL001cNL002cNL003cNL004cNL005cNL005AcNL006
cNL007cNL008cNL009cNL010cNL011cNL012cNL013cNL014cNL015cNL016cNL017cNL017AcNL018cNL019cNL020
cNU001cNU002cNU003cNU004cNU005cNU006cNU007cNU008cNU009cNU010cNU010AcNU011cNU011AcNU012cNU013
cNU014cNU015cNU016cNU017cNU018cNU018AcNU019cNU020cNU021cNU022cNU022AcO001cO001AcO002cO003cO004
cO005cO005AcO006cO006AcO006BcO006CcO006DcO006EcO006FcO007cO008cO009cO010cO010AcO010BcO010CcO011
cO012cO013cO014cO015cO016cO017cO018cO019cO019AcO020cO020AcO021cO022cO023cO024cO024AcO025cO025A
cO026cO027cO028cO029cO029AcO030cO030AcO031cO032cO033cO033AcO034cO035cO036cO036AcO036BcO036C
cO036DcO037cO038cO039cO040cO041cO042cO043cO044cO045cO046cO047cO048cO049cO050cO050AcO050BcO051
cP001cP001AcP002cP003cP003AcP004cP005cP006cP007cP008cP009cP010cP011cQ001cQ002cQ003cQ004cQ005
cQ006cQ007cR001cR002cR002AcR003cR003AcR003BcR004cR005cR006cR007cR008cR009cR010cR010AcR011cR012
cR013cR014cR015cR016cR016AcR017cR018cR019cR020cR021cR022cR023cR024cR025cR026cR027cR028cR029cS001
cS002cS002AcS003cS004cS005cS006cS006AcS007cS008cS009cS010cS011cS012cS013cS014cS014AcS014BcS015
cS016cS017cS017AcS018cS019cS020cS021cS022cS023cS024cS025cS026cS026AcS026BcS027cS028cS029cS030
cS031cS032cS033cS034cS035cS035AcS036cS037cS038cS039cS040cS041cS042cS043cS044cS045cS046cT001cT002
cT003cT003AcT004cT005cT006cT007cT007AcT008cT008AcT009cT009AcT010cT011cT011AcT012cT013cT014cT015
cT016cT016AcT017cT018cT019cT020cT021cT022cT023cT024cT025cT026cT027cT028cT029cT030cT031cT032
cT032AcT033cT033AcT034cT035cT036cU001cU002cU003cU004cU005cU006cU006AcU006BcU007cU008cU009cU010
cU011cU012cU013cU014cU015cU016cU017cU018cU019cU020cU021cU022cU023cU023AcU024cU025cU026cU027cU028
cU029cU029AcU030cU031cU032cU032AcU033cU034cU035cU036cU037cU038cU039cU040cU041cU042cV001cV001A
cV001BcV001CcV001DcV001EcV001FcV001GcV001HcV001IcV002cV002AcV003cV004cV005cV006cV007cV007AcV007B
cV008cV009cV010cV011cV011AcV011BcV011CcV012cV012AcV012BcV013cV014cV015cV016cV017cV018cV019cV020
cV020AcV020BcV020CcV020DcV020EcV020FcV020GcV020HcV020IcV020JcV020KcV020LcV021cV022cV023cV023A
cV024cV025cV026cV027cV028cV028AcV029cV029AcV030cV030AcV031cV031AcV032cV033cV033AcV034cV035cV036
cV037cV037AcV038cV039cV040cV040AcW001cW002cW003cW003AcW004cW005cW006cW007cW008cW009cW009AcW010
cW010AcW011cW012cW013cW014cW014AcW015cW016cW017cW017AcW018cW018AcW019cW020cW021cW022cW023cW024
cW024AcW025cX001cX002cX003cX004cX004AcX004BcX005cX006cX006AcX007cX008cX008AcY001cY001AcY002cY003
cY004cY005cY006cY007cY008cZ001cZ002cZ002AcZ002BcZ002CcZ002DcZ003cZ003AcZ003BcZ004cZ004AcZ005
cZ005AcZ006cZ007cZ008cZ009cZ010cZ011cZ012cZ013cZ014cZ015cZ015AcZ015BcZ015CcZ015DcZ015EcZ015F
cZ015GcZ015HcZ015IcZ016cZ016AcZ016BcZ016CcZ016DcZ016EcZ016FcZ016GcZ016HcAA001cAA002cAA003cAA004
cAA005cAA006cAA007cAA007AcAA007BcAA008cAA009cAA010cAA011cAA012cAA013cAA014cAA015cAA016cAA017
cAA018cAA019cAA020cAA021cAA022cAA023cAA024cAA025cAA026cAA027cAA028cAA029cAA030cAA031cAA032"),
  (0x13430, "aEGYPTIAN HIEROGLYPH VERTICAL JOINERcHORIZONTAL JOINERcINSERT AT TOP START
eBOTTOM STARTeTOP ENDeBOTTOM ENDcOVERLAY MIDDLEcBEGIN SEGMENTcEND SEGMENT"),
  (0x14400, "aANATOLIAN HIEROGLYPH A001cA002cA003cA004cA005cA006cA007cA008cA009cA010cA010AcA011
cA012cA013cA014cA015cA016cA017cA018cA019cA020cA021cA022cA023cA024cA025cA026cA026AcA027cA028cA029
cA030cA031cA032cA033cA034cA035cA036cA037cA038cA039cA039AcA040cA041cA041AcA042cA043cA044cA045
cA045AcA046cA046AcA046BcA047cA048cA049cA050cA051cA052cA053cA054cA055cA056cA057cA058cA059cA060
cA061cA062cA063cA064cA065cA066cA066AcA066BcA066CcA067cA068cA069cA070cA071cA072cA073cA074cA075
cA076cA077cA078cA079cA080cA081cA082cA083cA084cA085cA086cA087cA088cA089cA090cA091cA092cA093cA094
cA095cA096cA097cA097AcA098cA098AcA099cA100cA100AcA101cA101AcA102cA102AcA103cA104cA104AcA104B
cA104CcA105cA105AcA105BcA106cA107cA107AcA107BcA107CcA108cA109cA110cA110AcA110BcA111cA112cA113
cA114cA115cA115AcA116cA117cA118cA119cA120cA121cA122cA123cA124cA125cA125AcA126cA127cA128cA129
cA130cA131cA132cA133cA134cA135cA135AcA136cA137cA138cA139cA140cA141cA142cA143cA144cA145cA146cA147
cA148cA149cA150cA151cA152cA153cA154cA155cA156cA157cA158cA159cA160cA161cA162cA163cA164cA165cA166
cA167cA168cA169cA170cA171cA172cA173cA174cA175cA176cA177cA178cA179cA180cA181cA182cA183cA184cA185
cA186cA187cA188cA189cA190cA191cA192cA193cA194cA195cA196cA197cA198cA199cA200cA201cA202cA202A
cA202BcA203cA204cA205cA206cA207cA207AcA208cA209cA209AcA210cA211cA212cA213cA214cA215cA215AcA216
cA216AcA217cA218cA219cA220cA221cA222cA223cA224cA225cA226cA227cA227AcA228cA229cA230cA231cA232
cA233cA234cA235cA236cA237cA238cA239cA240cA241cA242cA243cA244cA245cA246cA247cA248cA249cA250cA251
cA252cA253cA254cA255cA256cA257cA258cA259cA260cA261cA262cA263cA264cA265cA266cA267cA267AcA268cA269
cA270cA271cA272cA273cA274cA275cA276cA277cA278cA279cA280cA281cA282cA283cA284cA285cA286cA287cA288
cA289cA289AcA290cA291cA292cA293cA294cA294AcA295cA296cA297cA298cA299cA299AcA300cA301cA302cA303
cA304cA305cA306cA307cA308cA309cA309AcA310cA311cA312cA313cA314cA315cA316cA317cA318cA319cA320cA321
cA322cA323cA324cA325cA326cA327cA328cA329cA329AcA330cA331cA332AcA332BcA332CcA333cA334cA335cA336
cA336AcA336BcA336CcA337cA338cA339cA340cA341cA342cA343cA344cA345cA346cA347cA348cA349cA350cA351
cA352cA353cA354cA355cA356cA357cA358cA359cA359AcA360cA361cA362cA363cA364cA364AcA365cA366cA367
cA368cA368AcA369cA370cA371cA371AcA372cA373cA374cA375cA376cA377cA378cA379cA380cA381cA381AcA382
cA383 RA OR RIcA383AcA384cA385cA386cA386AcA387cA388cA389cA390cA391cA392cA393 EIGHTcA394cA395
cA396cA397cA398cA399cA400cA401cA402cA403cA404cA405cA406cA407cA408cA409cA410 BEGIN LOGOGRAM MARK
cA410A END LOGOGRAM MARKcA411cA412cA413cA414cA415cA416cA417cA418cA419cA420cA421cA422cA423cA424
cA425cA426cA427cA428cA429cA430cA431cA432cA433cA434cA435cA436cA437cA438cA439cA440cA441cA442cA443
cA444cA445cA446cA447cA448cA449cA450cA450AcA451cA452cA453cA454cA455cA456cA457cA457AcA458cA459
cA460cA461cA462cA463cA464cA465cA466cA467cA468cA469cA470cA471cA472cA473cA474cA475cA476cA477cA478
cA479cA480cA481cA482cA483cA484cA485cA486cA487cA488cA489cA490cA491cA492cA493cA494cA495cA496cA497
cA501cA502cA503cA504cA505cA506cA507cA508cA509cA510cA511cA512cA513cA514cA515cA516cA517cA518cA519
cA520cA521cA522cA523cA524cA525cA526cA527cA528cA529cA530"),
  (0x16800, "aBAMUM LETTER PHASE-A NGKUE MFONdGBIEE FONdPON MFON PIPAEMGBIEEfPIPAEMBAdNAA MFON
dSHUENSHUETdTITA MFONdNZA MFONdSHINDA PA NJIdPON PA NJI PIPAEMGBIEEgPIPAEMBAdMAEMBGBIEE
dTU MAEMBAdNGANGUdMAEMVEUXdMANSUAEdMVEUAENGAMdSEUNYAMdNTOQPENdKEUKEUTNDAdNKINDIdSUUdNGKUENZEUM
dLAPAQdLET KUTdNTAP MFAAdMAEKEUPdPASHAEdGHEUAERAEdPAMSHAEdMON NGGEUAETdNZUN MEUTdU YUQ NAE
dGHEUAEGHEUAEdNTAP NTAAdSISAdMGBASAdMEUNJOMNDEUQdMOOMPUQdKAFAdPA LEERAEWAdNDA LEERAEWAdPET
dMAEMKPENdNIKAdPUPdTUAEPdLUAEPdSONJAMdTEUTEUWENdMAENYIdKETdNDAANGGEUAETdKUOQdMOOMEUTdSHUMdLOMMAE
dFIRIdROMdKPOQdSOQdMAP PIEETdSHIRAEdNTAPdSHOQ NSHUT YUMdNYIT MONGKEUAEQdPAARAEdNKAARAEdUNKNOWN
dNGGENdMAESIdNJAMdMBANYIdNYETdTEUAENdSOTdPAAMdNSHIEEdMAEMdNYIdKAQdNSHAdVEEdLUdNENdNAQdMBAQ
cPHASE-B NSHUETdTU MAEMGBIEEdSIEEdSET TUdLOM NTEUMdMBA MAELEEdKIEEMdYEURAEdMBAARAEdKAMdPEESHI
dYAFU LEERAEWAdLAM NSHUT NYAMdNTIEE SHEUOQdNDU NJAAdGHEUGHEUAEMdPITdTU NSIEEdSHET NJAQdSHEUAEQTU
dMFON TEUAEQdMBIT MBAAKETdNYI NTEUMdKEUPUQdGHEUGHENdKEUYEUXdLAANAEdPARUMdVEUMdNGKINDI MVOP
dNGGEU MBUdWUAETdSAKEUAEdTAAMdMEUQdNGGUOQeLARGEdMFIYAQdSUEdMBEURIdMONTIEENdNYAEMAEdPUNGAAM
dMEUT NGGEETdFEUXdMBUOQdFEEdKEUAEMdMA NJEUAENAeNJUQAdLETdNGGAAMdNSENdMAdKIQdNGOM
cPHASE-C NGKUE MAEMBAdNZAdYUMdWANGKUOQdNGGENdNDEUAEREEdNGKAQdGHARAEdMBEEKEETdGBAYI
dNYIR MKPARAQ MEUNdNTU MBITdMBEUMdPIRIEENdNDOMBUdMBAA CABBAGE-TREEdKEUSHEUAEPdGHAPdKEUKAQ
dYU MUOMAEdNZEUMdMBUEdNSEUAENdMBITdYEUQdKPARAQdKAAdSEUXdNDIDAdTAASHAEdNJUEQdTITA YUEdSUAET
dNGGUAEN NYAMdVEUXdNANSANAQdMA KEUAERIdNTAAdNGGUONdLAPdMBIRIEENdMGBASAQdNTEUNGBAdTEUTEUXdNGGUM
dFUEdNDEUTdNSAdNSHAQdBUNGdVEUAEPENdMBERAEdRUdNJAEMdLAMdTITUAEPdNSUOT NGOMdNJEEEEdKETdNGGUdMAESI
dMBUAEMdLUdKUTdNJAMdNGOMdWUPdNGGUEETdNSOMdNTENdKUOP NKAARAEdNSUNdNDAMdMA NSIEEdYAAdNDAPdSHUEQ
dSETFONdMBIdMAEMBAdMBANYIdKEUSEUXdMBEUXdKEUMdMBAA PICKETdYUWOQdNJEUXdMIEEdMUAEdSHIQdKEN LAW
eFATIGUEdNGAQdNAQdLIQdPINdPENdTETcPHASE-D MBUOdWAPdNJIdMFONdNJIEEdLIEEdNJEUTdNSHEEdNGGAAMAEdNYAM
dWUAENdNGKUNdSHEEdNGKAPdKEUAETMEUNdTEUTdSHEUAEdNJAPdSUEdKETdYAEMMAEdKUOMdSAPdMFEUTdNDEUXdMALEERI
dMEUTdSEUAEQdYENdNJEUAEMdKEUOT MBUAEdNGKEURIdTUdGHAAdNGKYEEdFEUFEUAETdNDEEdMGBOFUMdLEUAEPdNDON
dMONIdMGBEUNdPUUTdMGBIEEdMFOdLUMdNSIEEPdMBAAdKWAETdNYETdTEUAENdSOTdYUWOQdKEUMdRAEMdTEEEE
dNGKEUAEQdMFEUAEdNSIEETdKEUPdPIPdPEUTAEdNYUEdLETdNGGAAMdMFIEEdNGGWAENdYUOMdPAPdYUOPdNDAMdNTEUM
dSUAEdKUNdNGGEUXdNGKIEEdTUOTdMEUNdKUQdNSUMdTEUNdMAENJETdNGGAPdLEUMdNGGUOMdNSHUTdNJUEQdGHEUAEdKU
dREN OLDdTAEdTOQdNYIdRIIdLEEEEdMEEEEdMdSUUdMUdSHIIdSHEUXdKYEEdNUdSHUdNTEEdPEEdNIdSHOQdPUQdMVOP
dLOQdREN MUCHdTIdNTUUdMBAA SEVENdSAQdFAAcPHASE-E NDAPdTOONdMBEUMdLAPdVOMdLOONdPAAdSOMdRAQdNSHUOP
dNDUNdPUAEdTAMdNGKAdKPEUXdWUOdSEEdNGGEUAETdPAAMdTOOdKUOPdLOMdNSHIEEdNGOPdMAEMdNGKEUXdNGOQdNSHUE
dRIMGBAdNJEUXdPEEMdSAAdNGGURAEdMGBAdGHEUXdNGKEUAEMdNJAEMLIdMAPdLOOTdNGGEEEEdNDIQdTAEN NTEUMdSET
dPUMdNDAA SOFTNESSdNGGUAESHAE NYAMdYIEEdGHEUNdTUAEdYEUAEdPOdTUMAEdKEUAEdSUAENdTEUAEQdVEUAEdWEUX
dLAAMdPUdTAAQdGHAAMAEdNGEUREUTdSHEUAEQdMGBENdMBEEdNZAQdNKOMdGBETdTUMdKUETdYAPdNYI CLEAVERdYIT
dMFEUQdNDIAQdPIEEQdYUEQdLEUAEMdFUEdGBEUXdNGKUPdKETdMAEdNGKAAMIdGHETdFAdNTUMdPEUTdYEUMdNGGEUAE
dNYI BETWEENdNZUQdPOONdMIEEdFUETdNAEdMUAEdGHEUAEdFU IdMVIdPUAQdNGKUMdKUTdPIETdNTAPdYEUAETdNGGUP
dPA PEOPLEdFU CALLdFOMdNJEEdAdTOQdOdIdLAQdPA PLURALdTAAdTAQdNDAA MY HOUSEdSHIQdYEUXdNGUAEdYUAEN
dYOQ SWIMMINGeCOVERdYUQdYUNdKEUXdPEUXdNJEE EPOCHdPUEdWUEdFEEdVEEdLUdMIdREUXdRAEdNGUAETdNGAdSHO
dSHOQdFU REMEDYdNAdPIdLOQdKOdMENdMAdMAQdTEUdKIdMONdTENdFAQdGHOMcPHASE-F KAdUdKUdEEdREEdTAEdNYI
dLAdRIIdRIEEdMEEEEdTAAdNDAAdNJAEMdMdSUUdSHIIdSIdSEUXdKYEEdKETdNUAEdNUdNJUAEdYOQdSHUdYAdNSHAdPEUX
dNTEEdWUEdPEEdRUdNIdREUXdKENdNGKWAENdNGGAdSHOdPUAEdFOMdWAdLIdLOQdKOdMBENdRENdMAdMOdMBAAdTETdKPA
dSAMBAdVUEQ"),
  (0x16A40, "aMRO LETTER TAcNGIcYOcMIMcBAcDAcAcPHIcKHAIcHAOcDAIcCHUcKEAAEcOLcMAEMcNINcPAcOOcOcRO
cSHIcTHEAcEAcWAcEcKOcLANcLAcHAIcRIcTEK"),
  (0x16A60, "aMRO DIGIT ZEROcONEcTWOcTHREEcFOURcFIVEcSIXcSEVENcEIGHTcNINE"),
  (0x16A6E, "aMRO DANDAbDOUBLE DANDAaTANGSA LETTER OZcOCcOQcOXcAZcACcAQcAXcVZcVCcVQcVXcEZcECcEQ
cEXcIZcICcIQcIXcUZcUCcUQcUXcAWZcAWCcAWQcAWXcUIZcUICcUIQcUIXcFINAL NGcLONG UEXcSHORT UEZdAWXcUEC
cUEZcUEQcUEXcUIUZcUIUCcUIUQcUIUXcMZcMCcMQcMXcKAcKHAcGAcNGAcSAcYAcWAcPAcNYAcPHAcBAcMAcNAcHAcLA
cHTAcTAcDAcRAcNHAcSHAcCAcTSAcGHAcHTTAcTHAcXAcFAcDHAcCHAcZA"),
  (0x16AC0, "aTANGSA DIGIT ZEROcONEcTWOcTHREEcFOURcFIVEcSIXcSEVENcEIGHTcNINE"),
  (0x16AD0, "aBASSA VAH LETTER ENNIdKAdSEdFAdMBEdYIEdGAHdDHIIdKPAHdJOdHWAHdWAdZOdGBUdDOdCEdUWU
dTOdBAdVUdYEINdPAdWADDAdAdOdOOdUdEEdEdI"),
  (0x16AF0, "aBASSA VAH COMBINING HIGH TONEdLOW TONEdMID TONEdLOW-MID TONEdHIGH-LOW TONE
cFULL STOP"),
  (0x16B00, "aPAHAWH HMONG VOWEL KEEBdKEEVdKIBdKIVdKAUBdKAUVdKUBdKUVdKEBdKEVdKAIBdKAIVdKOOBdKOOV
dKAWBdKAWVdKUABdKUAVdKOBdKOVdKIABdKIAVdKABdKAVdKWBdKWVdKAABdKAAVcCONSONANT VAUdNTSAUdLAUdHAU
dNLAUdRAUdNKAUdQHAUdYAUdHLAUdMAUdCHAUdNCHAUdHNAUdPLHAUdNTHAUdNAUdAUdXAUdCAUcMARK CIM TUBeSOeKES
eKHAVeSUAMeHOMeTAUMcSIGN VOS THOMeTSHAB CEEBdCIM CHEEMdVOS THIABeFEEMdXYEEM NTXIVeRHOeTOVeFAIB
dVOS SEEVdMEEJ SUABdVOS NRUAdIB YAMdXAUSdCIM TSOV ROG"),
  (0x16B50, "aPAHAWH HMONG DIGIT ZEROdONEdTWOdTHREEdFOURdFIVEdSIXdSEVENdEIGHTdNINE"),
  (0x16B5B, "aPAHAWH HMONG NUMBER TENSdHUNDREDSdTEN THOUSANDSdMILLIONSdHUNDRED MILLIONS
dTEN BILLIONSdTRILLIONS"),
  (0x16B63, "aPAHAWH HMONG SIGN VOS LUBdXYOOdHLIdTHIRD-STAGE HLIdZWJ THAJdHNUBdNQIGdXIABdNTUJdAV
dTXHEEJ CEEVdMEEJ TSEEBdTAUdLOSdMUSdCIM HAIS LUS NTOG NTOGeCUAM TSHOOJeTXWVfCHWVePUB DAWB
eNRES TOS"),
  (0x16B7D, "aPAHAWH HMONG CLAN SIGN TSHEEJeYEEGeLISeLAUJeXYOOJeKOOeHAWJeMUASeTHOJeTSABePHAB
eKHABeHAMeVAJeFAJeYAJeTSWBeKWMeVWJ"),
  (0x16E40, "aMEDEFAIDRIN CAPITAL LETTER MdSdVdWdATIUdZdKPdPdTdGdFdIdKdAdJdEdBdCdUdYUdLdQdHPdNY
dXdDdOEdNdRdOdAIdYbSMALL LETTER MdSdVdWdATIUdZdKPdPdTdGdFdIdKdAdJdEdBdCdUdYUdLdQdHPdNYdXdDdOEdN
dRdOdAIdYbDIGIT ZEROcONEcTWOcTHREEcFOURcFIVEcSIXcSEVENcEIGHTcNINEbNUMBER TENcELEVENcTWELVE
cTHIRTEENcFOURTEENcFIFTEENcSIXTEENcSEVENTEENcEIGHTEENcNINETEENbDIGIT ONE ALTERNATE FORM
cTWO ALTERNATE FORMcTHREE ALTERNATE FORMbCOMMAbFULL STOPbSYMBOL AIVAbEXCLAMATION OH"),
  (0x16F00, "aMIAO LETTER PAcBAcYI PAcPLAcMAcMHAcARCHAIC MAcFAcVAcVFAcTAcDAcYI TTAdTAcTTAcDDAcNA
cNHAcYI NNAcARCHAIC NAcNNAcNNHAcLAcLYAcLHAcLHYAcTLHAcDLHAcTLHYAcDLHYAcKAcGAcYI KAcQAcQGAcNGA
cNGHAcARCHAIC NGAcHAcXAcGHAcGHHAcTSSAcDZZAcNYAcNYHAcTSHAcDZHAcYI TSHAdDZHAcREFORMED TSHAcSHAcSSA
cZHAcZSHAcTSAcDZAcYI TSAcSAcZAcZSAcZZAcZZSAcARCHAIC ZZAcZZYAcZZSYAcWAcAHcHHAcBRIcSYIcDZYIcTEcTSE
cRTE"),
  (0x16F4F, "aMIAO SIGN CONSONANT MODIFIER BARbLETTER NASALIZATIONbSIGN ASPIRATION
cREFORMED VOICINGdASPIRATIONbVOWEL SIGN AdAAdAHHdANdANGdOdOOdWOdWdEdENdENGdOEYdIdIAdIANdIANGdIO
dIEdIIdIUdINGdUdUAdUANdUANGdUUdUEIdUNGdYdYIdAEdAEEdERRdROUNDED ERRdERdROUNDED ERdAIdEIdAUdOUdN
dNGdUOGdYUIdOGdOERdVWdIGdEAdIONGdUI"),
  (0x16F8F, "aMIAO TONE RIGHTcTOP RIGHTcABOVEcBELOWbLETTER TONE-2cTONE-3cTONE-4cTONE-5cTONE-6
cTONE-7cTONE-8cREFORMED TONE-1dTONE-2dTONE-4dTONE-5dTONE-6dTONE-8"),
  (0x16FE0, "aTANGUT ITERATION MARKaNUSHU ITERATION MARKaOLD CHINESE HOOK MARKcITERATION MARK
aKHITAN SMALL SCRIPT FILLER"),
  (0x16FF0, "aVIETNAMESE ALTERNATE READING MARK CAeNHAY"),
  (0x18800, "aTANGUT COMPONENT-001bCOMPONENT-002bCOMPONENT-003bCOMPONENT-004bCOMPONENT-005
bCOMPONENT-006bCOMPONENT-007bCOMPONENT-008bCOMPONENT-009bCOMPONENT-010bCOMPONENT-011
bCOMPONENT-012bCOMPONENT-013bCOMPONENT-014bCOMPONENT-015bCOMPONENT-016bCOMPONENT-017
bCOMPONENT-018bCOMPONENT-019bCOMPONENT-020bCOMPONENT-021bCOMPONENT-022bCOMPONENT-023
bCOMPONENT-024bCOMPONENT-025bCOMPONENT-026bCOMPONENT-027bCOMPONENT-028bCOMPONENT-029
bCOMPONENT-030bCOMPONENT-031bCOMPONENT-032bCOMPONENT-033bCOMPONENT-034bCOMPONENT-035
bCOMPONENT-036bCOMPONENT-037bCOMPONENT-038bCOMPONENT-039bCOMPONENT-040bCOMPONENT-041
bCOMPONENT-042bCOMPONENT-043bCOMPONENT-044bCOMPONENT-045bCOMPONENT-046bCOMPONENT-047
bCOMPONENT-048bCOMPONENT-049bCOMPONENT-050bCOMPONENT-051bCOMPONENT-052bCOMPONENT-053
bCOMPONENT-054bCOMPONENT-055bCOMPONENT-056bCOMPONENT-057bCOMPONENT-058bCOMPONENT-059
bCOMPONENT-060bCOMPONENT-061bCOMPONENT-062bCOMPONENT-063bCOMPONENT-064bCOMPONENT-065
bCOMPONENT-066bCOMPONENT-067bCOMPONENT-068bCOMPONENT-069bCOMPONENT-070bCOMPONENT-071
bCOMPONENT-072bCOMPONENT-073bCOMPONENT-074bCOMPONENT-075bCOMPONENT-076bCOMPONENT-077
bCOMPONENT-078bCOMPONENT-079bCOMPONENT-080bCOMPONENT-081bCOMPONENT-082bCOMPONENT-083
bCOMPONENT-084bCOMPONENT-085bCOMPONENT-086bCOMPONENT-087bCOMPONENT-088bCOMPONENT-089
bCOMPONENT-090bCOMPONENT-091bCOMPONENT-092bCOMPONENT-093bCOMPONENT-094bCOMPONENT-095
bCOMPONENT-096bCOMPONENT-097bCOMPONENT-098bCOMPONENT-099bCOMPONENT-100bCOMPONENT-101
bCOMPONENT-102bCOMPONENT-103bCOMPONENT-104bCOMPONENT-105bCOMPONENT-106bCOMPONENT-107
bCOMPONENT-108bCOMPONENT-109bCOMPONENT-110bCOMPONENT-111bCOMPONENT-112bCOMPONENT-113
bCOMPONENT-114bCOMPONENT-115bCOMPONENT-116bCOMPONENT-117bCOMPONENT-118bCOMPONENT-119
bCOMPONENT-120bCOMPONENT-121bCOMPONENT-122bCOMPONENT-123bCOMPONENT-124bCOMPONENT-125
bCOMPONENT-126bCOMPONENT-127bCOMPONENT-128bCOMPONENT-129bCOMPONENT-130bCOMPONENT-131
bCOMPONENT-132bCOMPONENT-133bCOMPONENT-134bCOMPONENT-135bCOMPONENT-136bCOMPONENT-137
bCOMPONENT-138bCOMPONENT-139bCOMPONENT-140bCOMPONENT-141bCOMPONENT-142bCOMPONENT-143
bCOMPONENT-144bCOMPONENT-145bCOMPONENT-146bCOMPONENT-147bCOMPONENT-148bCOMPONENT-149
bCOMPONENT-150bCOMPONENT-151bCOMPONENT-152bCOMPONENT-153bCOMPONENT-154bCOMPONENT-155
bCOMPONENT-156bCOMPONENT-157bCOMPONENT-158bCOMPONENT-159bCOMPONENT-160bCOMPONENT-161
bCOMPONENT-162bCOMPONENT-163bCOMPONENT-164bCOMPONENT-165bCOMPONENT-166bCOMPONENT-167
bCOMPONENT-168bCOMPONENT-169bCOMPONENT-170bCOMPONENT-171bCOMPONENT-172bCOMPONENT-173
bCOMPONENT-174bCOMPONENT-175bCOMPONENT-176bCOMPONENT-177bCOMPONENT-178bCOMPONENT-179
bCOMPONENT-180bCOMPONENT-181bCOMPONENT-182bCOMPONENT-183bCOMPONENT-184bCOMPONENT-185
bCOMPONENT-186bCOMPONENT-187bCOMPONENT-188bCOMPONENT-189bCOMPONENT-190bCOMPONENT-191
bCOMPONENT-192bCOMPONENT-193bCOMPONENT-194bCOMPONENT-195bCOMPONENT-196bCOMPONENT-197
bCOMPONENT-198bCOMPONENT-199bCOMPONENT-200bCOMPONENT-201bCOMPONENT-202bCOMPONENT-203
bCOMPONENT-204bCOMPONENT-205bCOMPONENT-206bCOMPONENT-207bCOMPONENT-208bCOMPONENT-209
bCOMPONENT-210bCOMPONENT-211bCOMPONENT-212bCOMPONENT-213bCOMPONENT-214bCOMPONENT-215
bCOMPONENT-216bCOMPONENT-217bCOMPONENT-218bCOMPONENT-219bCOMPONENT-220bCOMPONENT-221
bCOMPONENT-222bCOMPONENT-223bCOMPONENT-224bCOMPONENT-225bCOMPONENT-226bCOMPONENT-227
bCOMPONENT-228bCOMPONENT-229bCOMPONENT-230bCOMPONENT-231bCOMPONENT-232bCOMPONENT-233
bCOMPONENT-234bCOMPONENT-235bCOMPONENT-236bCOMPONENT-237bCOMPONENT-238bCOMPONENT-239
bCOMPONENT-240bCOMPONENT-241bCOMPONENT-242bCOMPONENT-243bCOMPONENT-244bCOMPONENT-245
bCOMPONENT-246bCOMPONENT-247bCOMPONENT-248bCOMPONENT-249bCOMPONENT-250bCOMPONENT-251
bCOMPONENT-252bCOMPONENT-253bCOMPONENT-254bCOMPONENT-255bCOMPONENT-256bCOMPONENT-257
bCOMPONENT-258bCOMPONENT-259bCOMPONENT-260bCOMPONENT-261bCOMPONENT-262bCOMPONENT-263
bCOMPONENT-264bCOMPONENT-265bCOMPONENT-266bCOMPONENT-267bCOMPONENT-268bCOMPONENT-269
bCOMPONENT-270bCOMPONENT-271bCOMPONENT-272bCOMPONENT-273bCOMPONENT-274bCOMPONENT-275
bCOMPONENT-276bCOMPONENT-277bCOMPONENT-278bCOMPONENT-279bCOMPONENT-280bCOMPONENT-281
bCOMPONENT-282bCOMPONENT-283bCOMPONENT-284bCOMPONENT-285bCOMPONENT-286bCOMPONENT-287
bCOMPONENT-288bCOMPONENT-289bCOMPONENT-290bCOMPONENT-291bCOMPONENT-292bCOMPONENT-293
bCOMPONENT-294bCOMPONENT-295bCOMPONENT-296bCOMPONENT-297bCOMPONENT-298bCOMPONENT-299
bCOMPONENT-300bCOMPONENT-301bCOMPONENT-302bCOMPONENT-303bCOMPONENT-304bCOMPONENT-305
bCOMPONENT-306bCOMPONENT-307bCOMPONENT-308bCOMPONENT-309bCOMPONENT-310bCOMPONENT-311
bCOMPONENT-312bCOMPONENT-313bCOMPONENT-314bCOMPONENT-315bCOMPONENT-316bCOMPONENT-317
bCOMPONENT-318bCOMPONENT-319bCOMPONENT-320bCOMPONENT-321bCOMPONENT-322bCOMPONENT-323
bCOMPONENT-324bCOMPONENT-325bCOMPONENT-326bCOMPONENT-327bCOMPONENT-328bCOMPONENT-329
bCOMPONENT-330bCOMPONENT-331bCOMPONENT-332bCOMPONENT-333bCOMPONENT-334bCOMPONENT-335
bCOMPONENT-336bCOMPONENT-337bCOMPONENT-338bCOMPONENT-339bCOMPONENT-340bCOMPONENT-341
bCOMPONENT-342bCOMPONENT-343bCOMPONENT-344bCOMPONENT-345bCOMPONENT-346bCOMPONENT-347
bCOMPONENT-348bCOMPONENT-349bCOMPONENT-350bCOMPONENT-351bCOMPONENT-352bCOMPONENT-353
bCOMPONENT-354bCOMPONENT-355bCOMPONENT-356bCOMPONENT-357bCOMPONENT-358bCOMPONENT-359
bCOMPONENT-360bCOMPONENT-361bCOMPONENT-362bCOMPONENT-363bCOMPONENT-364bCOMPONENT-365
bCOMPONENT-366bCOMPONENT-367bCOMPONENT-368bCOMPONENT-369bCOMPONENT-370bCOMPONENT-371
bCOMPONENT-372bCOMPONENT-373bCOMPONENT-374bCOMPONENT-375bCOMPONENT-376bCOMPONENT-377
bCOMPONENT-378bCOMPONENT-379bCOMPONENT-380bCOMPONENT-381bCOMPONENT-382bCOMPONENT-383
bCOMPONENT-384bCOMPONENT-385bCOMPONENT-386bCOMPONENT-387bCOMPONENT-388bCOMPONENT-389
bCOMPONENT-390bCOMPONENT-391bCOMPONENT-392bCOMPONENT-393bCOMPONENT-394bCOMPONENT-395
bCOMPONENT-396bCOMPONENT-397bCOMPONENT-398bCOMPONENT-399bCOMPONENT-400bCOMPONENT-401
bCOMPONENT-402bCOMPONENT-403bCOMPONENT-404bCOMPONENT-405bCOMPONENT-406bCOMPONENT-407
bCOMPONENT-408bCOMPONENT-409bCOMPONENT-410bCOMPONENT-411bCOMPONENT-412bCOMPONENT-413
bCOMPONENT-414bCOMPONENT-415bCOMPONENT-416bCOMPONENT-417bCOMPONENT-418bCOMPONENT-419
bCOMPONENT-420bCOMPONENT-421bCOMPONENT-422bCOMPONENT-423bCOMPONENT-424bCOMPONENT-425
bCOMPONENT-426bCOMPONENT-427bCOMPONENT-428bCOMPONENT-429bCOMPONENT-430bCOMPONENT-431
bCOMPONENT-432bCOMPONENT-433bCOMPONENT-434bCOMPONENT-435bCOMPONENT-436bCOMPONENT-437
bCOMPONENT-438bCOMPONENT-439bCOMPONENT-440bCOMPONENT-441bCOMPONENT-442bCOMPONENT-443
bCOMPONENT-444bCOMPONENT-445bCOMPONENT-446bCOMPONENT-447bCOMPONENT-448bCOMPONENT-449
bCOMPONENT-450bCOMPONENT-451bCOMPONENT-452bCOMPONENT-453bCOMPONENT-454bCOMPONENT-455
bCOMPONENT-456bCOMPONENT-457bCOMPONENT-458bCOMPONENT-459bCOMPONENT-460bCOMPONENT-461
bCOMPONENT-462bCOMPONENT-463bCOMPONENT-464bCOMPONENT-465bCOMPONENT-466bCOMPONENT-467
bCOMPONENT-468bCOMPONENT-469bCOMPONENT-470bCOMPONENT-471bCOMPONENT-472bCOMPONENT-473
bCOMPONENT-474bCOMPONENT-475bCOMPONENT-476bCOMPONENT-477bCOMPONENT-478bCOMPONENT-479
bCOMPONENT-480bCOMPONENT-481bCOMPONENT-482bCOMPONENT-483bCOMPONENT-484bCOMPONENT-485
bCOMPONENT-486bCOMPONENT-487bCOMPONENT-488bCOMPONENT-489bCOMPONENT-490bCOMPONENT-491
bCOMPONENT-492bCOMPONENT-493bCOMPONENT-494bCOMPONENT-495bCOMPONENT-496bCOMPONENT-497
bCOMPONENT-498bCOMPONENT-499bCOMPONENT-500bCOMPONENT-501bCOMPONENT-502bCOMPONENT-503
bCOMPONENT-504bCOMPONENT-505bCOMPONENT-506bCOMPONENT-507bCOMPONENT-508bCOMPONENT-509
bCOMPONENT-510bCOMPONENT-511bCOMPONENT-512bCOMPONENT-513bCOMPONENT-514bCOMPONENT-515
bCOMPONENT-516bCOMPONENT-517bCOMPONENT-518bCOMPONENT-519bCOMPONENT-520bCOMPONENT-521
bCOMPONENT-522bCOMPONENT-523bCOMPONENT-524bCOMPONENT-525bCOMPONENT-526bCOMPONENT-527
bCOMPONENT-528bCOMPONENT-529bCOMPONENT-530bCOMPONENT-531bCOMPONENT-532bCOMPONENT-533
bCOMPONENT-534bCOMPONENT-535bCOMPONENT-536bCOMPONENT-537bCOMPONENT-538bCOMPONENT-539
bCOMPONENT-540bCOMPONENT-541bCOMPONENT-542bCOMPONENT-543bCOMPONENT-544bCOMPONENT-545
bCOMPONENT-546bCOMPONENT-547bCOMPONENT-548bCOMPONENT-549bCOMPONENT-550bCOMPONENT-551
bCOMPONENT-552bCOMPONENT-553bCOMPONENT-554bCOMPONENT-555bCOMPONENT-556bCOMPONENT-557
bCOMPONENT-558bCOMPONENT-559bCOMPONENT-560bCOMPONENT-561bCOMPONENT-562bCOMPONENT-563
bCOMPONENT-564bCOMPONENT-565bCOMPONENT-566bCOMPONENT-567bCOMPONENT-568bCOMPONENT-569
bCOMPONENT-570bCOMPONENT-571bCOMPONENT-572bCOMPONENT-573bCOMPONENT-574bCOMPONENT-575
bCOMPONENT-576bCOMPONENT-577bCOMPONENT-578bCOMPONENT-579bCOMPONENT-580bCOMPONENT-581
bCOMPONENT-582bCOMPONENT-583bCOMPONENT-584bCOMPONENT-585bCOMPONENT-586bCOMPONENT-587
bCOMPONENT-588bCOMPONENT-589bCOMPONENT-590bCOMPONENT-591bCOMPONENT-592bCOMPONENT-593
bCOMPONENT-594bCOMPONENT-595bCOMPONENT-596bCOMPONENT-597bCOMPONENT-598bCOMPONENT-599
bCOMPONENT-600bCOMPONENT-601bCOMPONENT-602bCOMPONENT-603bCOMPONENT-604bCOMPONENT-605
bCOMPONENT-606bCOMPONENT-607bCOMPONENT-608bCOMPONENT-609bCOMPONENT-610bCOMPONENT-611
bCOMPONENT-612bCOMPONENT-613bCOMPONENT-614bCOMPONENT-615bCOMPONENT-616bCOMPONENT-617
bCOMPONENT-618bCOMPONENT-619bCOMPONENT-620bCOMPONENT-621bCOMPONENT-622bCOMPONENT-623
bCOMPONENT-624bCOMPONENT-625bCOMPONENT-626bCOMPONENT-627bCOMPONENT-628bCOMPONENT-629
bCOMPONENT-630bCOMPONENT-631bCOMPONENT-632bCOMPONENT-633bCOMPONENT-634bCOMPONENT-635
bCOMPONENT-636bCOMPONENT-637bCOMPONENT-638bCOMPONENT-639bCOMPONENT-640bCOMPONENT-641
bCOMPONENT-642bCOMPONENT-643bCOMPONENT-644bCOMPONENT-645bCOMPONENT-646bCOMPONENT-647
bCOMPONENT-648bCOMPONENT-649bCOMPONENT-650bCOMPONENT-651bCOMPONENT-652bCOMPONENT-653
bCOMPONENT-654bCOMPONENT-655bCOMPONENT-656bCOMPONENT-657bCOMPONENT-658bCOMPONENT-659
bCOMPONENT-660bCOMPONENT-661bCOMPONENT-662bCOMPONENT-663bCOMPONENT-664bCOMPONENT-665
bCOMPONENT-666bCOMPONENT-667bCOMPONENT-668bCOMPONENT-669bCOMPONENT-670bCOMPONENT-671
bCOMPONENT-672bCOMPONENT-673bCOMPONENT-674bCOMPONENT-675bCOMPONENT-676bCOMPONENT-677
bCOMPONENT-678bCOMPONENT-679bCOMPONENT-680bCOMPONENT-681bCOMPONENT-682bCOMPONENT-683
bCOMPONENT-684bCOMPONENT-685bCOMPONENT-686bCOMPONENT-687bCOMPONENT-688bCOMPONENT-689
bCOMPONENT-690bCOMPONENT-691bCOMPONENT-692bCOMPONENT-693bCOMPONENT-694bCOMPONENT-695
bCOMPONENT-696bCOMPONENT-697bCOMPONENT-698bCOMPONENT-699bCOMPONENT-700bCOMPONENT-701
bCOMPONENT-702bCOMPONENT-703bCOMPONENT-704bCOMPONENT-705bCOMPONENT-706bCOMPONENT-707
bCOMPONENT-708bCOMPONENT-709bCOMPONENT-710bCOMPONENT-711bCOMPONENT-712bCOMPONENT-713
bCOMPONENT-714bCOMPONENT-715bCOMPONENT-716bCOMPONENT-717bCOMPONENT-718bCOMPONENT-719
bCOMPONENT-720bCOMPONENT-721bCOMPONENT-722bCOMPONENT-723bCOMPONENT-724bCOMPONENT-725
bCOMPONENT-726bCOMPONENT-727bCOMPONENT-728bCOMPONENT-729bCOMPONENT-730bCOMPONENT-731
bCOMPONENT-732bCOMPONENT-733bCOMPONENT-734bCOMPONENT-735bCOMPONENT-736bCOMPONENT-737
bCOMPONENT-738bCOMPONENT-739bCOMPONENT-740bCOMPONENT-741bCOMPONENT-742bCOMPONENT-743
bCOMPONENT-744bCOMPONENT-745bCOMPONENT-746bCOMPONENT-747bCOMPONENT-748bCOMPONENT-749
bCOMPONENT-750bCOMPONENT-751bCOMPONENT-752bCOMPONENT-753bCOMPONENT-754bCOMPONENT-755
bCOMPONENT-756bCOMPONENT-757bCOMPONENT-758bCOMPONENT-759bCOMPONENT-760bCOMPONENT-761
bCOMPONENT-762bCOMPONENT-763bCOMPONENT-764bCOMPONENT-765bCOMPONENT-766bCOMPONENT-767
bCOMPONENT-768"),
  (0x1AFF0, "aKATAKANA LETTER MINNAN TONE-2dTONE-3dTONE-4dTONE-5"),
  (0x1AFF5, "aKATAKANA LETTER MINNAN TONE-7dTONE-8dNASALIZED TONE-1eTONE-2eTONE-3eTONE-4eTONE-5"),
  (0x1AFFD, "aKATAKANA LETTER MINNAN NASALIZED TONE-7eTONE-8"),
  (0x1B000, "aKATAKANA LETTER ARCHAIC EaHIRAGANA LETTER ARCHAIC YEaHENTAIGANA LETTER A-1cA-2cA-3
cA-WOcI-1cI-2cI-3cI-4cU-1cU-2cU-3cU-4cU-5cE-2cE-3cE-4cE-5cE-6cO-1cO-2cO-3cKA-1cKA-2cKA-3cKA-4
cKA-5cKA-6cKA-7cKA-8cKA-9cKA-10cKA-11cKA-KEcKI-1cKI-2cKI-3cKI-4cKI-5cKI-6cKI-7cKI-8cKU-1cKU-2
cKU-3cKU-4cKU-5cKU-6cKU-7cKE-1cKE-2cKE-3cKE-4cKE-5cKE-6cKO-1cKO-2cKO-3cKO-KIcSA-1cSA-2cSA-3cSA-4
cSA-5cSA-6cSA-7cSA-8cSI-1cSI-2cSI-3cSI-4cSI-5cSI-6cSU-1cSU-2cSU-3cSU-4cSU-5cSU-6cSU-7cSU-8cSE-1
cSE-2cSE-3cSE-4cSE-5cSO-1cSO-2cSO-3cSO-4cSO-5cSO-6cSO-7cTA-1cTA-2cTA-3cTA-4cTI-1cTI-2cTI-3cTI-4
cTI-5cTI-6cTI-7cTU-1cTU-2cTU-3cTU-4cTU-TOcTE-1cTE-2cTE-3cTE-4cTE-5cTE-6cTE-7cTE-8cTE-9cTO-1cTO-2
cTO-3cTO-4cTO-5cTO-6cTO-RAcNA-1cNA-2cNA-3cNA-4cNA-5cNA-6cNA-7cNA-8cNA-9cNI-1cNI-2cNI-3cNI-4cNI-5
cNI-6cNI-7cNI-TEcNU-1cNU-2cNU-3cNE-1cNE-2cNE-3cNE-4cNE-5cNE-6cNE-KOcNO-1cNO-2cNO-3cNO-4cNO-5
cHA-1cHA-2cHA-3cHA-4cHA-5cHA-6cHA-7cHA-8cHA-9cHA-10cHA-11cHI-1cHI-2cHI-3cHI-4cHI-5cHI-6cHI-7
cHU-1cHU-2cHU-3cHE-1cHE-2cHE-3cHE-4cHE-5cHE-6cHE-7cHO-1cHO-2cHO-3cHO-4cHO-5cHO-6cHO-7cHO-8cMA-1
cMA-2cMA-3cMA-4cMA-5cMA-6cMA-7cMI-1cMI-2cMI-3cMI-4cMI-5cMI-6cMI-7cMU-1cMU-2cMU-3cMU-4cME-1cME-2
cME-MAcMO-1cMO-2cMO-3cMO-4cMO-5cMO-6cYA-1cYA-2cYA-3cYA-4cYA-5cYA-YOcYU-1cYU-2cYU-3cYU-4cYO-1
cYO-2cYO-3cYO-4cYO-5cYO-6cRA-1cRA-2cRA-3cRA-4cRI-1cRI-2cRI-3cRI-4cRI-5cRI-6cRI-7cRU-1cRU-2cRU-3
cRU-4cRU-5cRU-6cRE-1cRE-2cRE-3cRE-4cRO-1cRO-2cRO-3cRO-4cRO-5cRO-6cWA-1cWA-2cWA-3cWA-4cWA-5cWI-1
cWI-2cWI-3cWI-4cWI-5cWE-1cWE-2cWE-3cWE-4cWO-1cWO-2cWO-3cWO-4cWO-5cWO-6cWO-7cN-MU-MO-1cN-MU-MO-2
aHIRAGANA LETTER ARCHAIC WUaKATAKANA LETTER ARCHAIC YIdYEdWU"),
  (0x1B150, "aHIRAGANA LETTER SMALL WIdWEdWO"),
  (0x1B164, "aKATAKANA LETTER SMALL WIdWEdWOdN"),
  (0x1BC00, "aDUPLOYAN LETTER HcXcPcTcFcKcLcBcDcVcGcRcP NcD ScF NcK McR ScTHcSLOAN DHcDHcKK
cSLOAN JcHLcLHcRHcMcNcJcScM NcN McJ McS JcM WITH DOTcN WITH DOTcJ WITH DOTeDOTS INSIDE AND ABOVE
cS WITH DOTfBELOWcM ScN ScJ ScS ScM N ScN M ScJ M ScS J ScJ S WITH DOTdNeScS TeRdPeRcT SdR ScW
cWHcW RcS NdMcK R ScG R ScS KeRcAcSLOAN OWcOAcOcAOUcIcEcIEcSHORT IcUIcEEcSLOAN EHcROMANIAN I
cSLOAN EEcLONG IcYEcUcEUcXWcU NcLONG UcROMANIAN UcUHcSLOAN UcOOHcOWcOUcWAcWOcWIcWEIcWOWcNASAL U
dOdIdAcPERNIN ANdAMcSLOAN ENdANdONcVOCALIC M"),
  (0x1BC70, "aDUPLOYAN AFFIX LEFT HORIZONTAL SECANTcMID HORIZONTAL SECANT
cRIGHT HORIZONTAL SECANTcLOW VERTICAL SECANTcMID VERTICAL SECANTcHIGH VERTICAL SECANT
cATTACHED SECANTdLEFT-TO-RIGHT SECANTdTANGENTdTAILdE HOOKdI HOOKdTANGENT HOOK"),
  (0x1BC80, "aDUPLOYAN AFFIX HIGH ACUTEdTIGHT ACUTEdGRAVEdLONG GRAVEdDOTdCIRCLEdLINEdWAVE
dVERTICAL"),
  (0x1BC90, "aDUPLOYAN AFFIX LOW ACUTEdTIGHT ACUTEdGRAVEdLONG GRAVEdDOTdCIRCLEdLINEdWAVE
dVERTICALdARROW"),
  (0x1BC9C, "aDUPLOYAN SIGN O WITH CROSSbTHICK LETTER SELECTORbDOUBLE MARK
bPUNCTUATION CHINOOK FULL STOPaSHORTHAND FORMAT LETTER OVERLAPcCONTINUING OVERLAPcDOWN STEP
cUP STEP"),
  (0x1CF00, "aZNAMENNY COMBINING MARK GORAZDO NIZKO S KRYZHEM ON LEFTdNIZKO S KRYZHEM ON LEFT
dTSATA ON LEFTdGORAZDO NIZKO ON LEFTdNIZKO ON LEFTdSREDNE ON LEFTdMALO POVYSHE ON LEFT
dPOVYSHE ON LEFTdVYSOKO ON LEFTdMALO POVYSHE S KHOKHLOM ON LEFTdPOVYSHE S KHOKHLOM ON LEFT
dVYSOKO S KHOKHLOM ON LEFTdGORAZDO NIZKO S KRYZHEM ON RIGHTdNIZKO S KRYZHEM ON RIGHT
dTSATA ON RIGHTdGORAZDO NIZKO ON RIGHTdNIZKO ON RIGHTdSREDNE ON RIGHTdMALO POVYSHE ON RIGHT
dPOVYSHE ON RIGHTdVYSOKO ON RIGHTdMALO POVYSHE S KHOKHLOM ON RIGHTdPOVYSHE S KHOKHLOM ON RIGHT
dVYSOKO S KHOKHLOM ON RIGHTdTSATA S KRYZHEMdMALO POVYSHE S KRYZHEMdSTRANNO MALO POVYSHE
dPOVYSHE S KRYZHEMeSTRANNOdVYSOKO S KRYZHEMdMALO POVYSHE STRANNOdGORAZDO VYSOKOdZELOdONdRAVNO
dTIKHAYAdBORZAYAdUDARKAdPODVERTKAdLOMKAdKUPNAYAdKACHKAdZEVOKdSKOBAdRAZSEKAdKRYZH ON LEFT"),
  (0x1CF30, "aZNAMENNY COMBINING TONAL RANGE MARK MRACHNOfSVETLOfTRESVETLOcMARK ZADERZHKA
dDEMESTVENNY ZADERZHKAdOTSECHKAdPODCHASHIEeWITH VERTICAL STROKEdCHASHKAePOLNAYAdOBLACHKO
dSOROCHYA NOZHKAdTOCHKAdDVOETOCHIEcATTACHING VERTICAL OMETcMARK CURVED OMETdKRYZH
cLOWER TONAL RANGE INDICATORbPRIZNAK MODIFIER LEVEL-2dLEVEL-3dDIRECTION FLIPdKRYZHdROG"),
  (0x1CF50, "aZNAMENNY NEUME KRYUKdTIKHYcPARAKLITcDVA V CHELNUcKLYUCHcZANOZHEKcSTOPITSAdS OCHKOM
cPEREVODKAdNEPOSTOYANNAYAcSTOPITSA WITH SOROCHYA NOZHKAcCHELYUSTKAcPALKAcZAPYATAYA
cGOLUBCHIK BORZYdTIKHYdMRACHNYdSVETLYdTRESVETLYcVRAKHIYA PROSTAYAdMRACHNAYAdSVETLAYAdTRESVETLAYA
dKLYUCHEVAYA PROSTAYAeMRACHNAYAeSVETLAYAeTRESVETLAYAcDOUBLE ZAPYATAYAcREVERSED CHELYUSTKA
cDERBITSAcKHAMILOcCHASHKAcPODCHASHIEcSKAMEYTSA MRACHNAYAdSVETLAYAdTRESVETLAYAdTIKHAYA
cDEMESTVENNY KLYUCHcSKAMEYTSA KLYUCHEVAYA SVETLAYAdKLYUCHENEPOSTOYANNAYAdKLYUCHEVAYA TIKHAYA
dDVOECHELNAYA PROSTAYAeSVETLAYAeNEPOSTOYANNAYAeKLYUCHEVAYAcSLOZHITIEdS ZAPYATOYdZAKRYTOE
dS KRYZHEMcKRYZHcROGcFITAcKOBYLAcZMEYTSAcSTATYAdS ZAPYATOYeKRYZHEMeZAPYATOY I KRYZHEM
eKRYZHEM I ZAPYATOYdZAKRYTAYAeS ZAPYATOYdS ROGOMeDVUMYA ZAPYATYMIeZAPYATOY I PODCHASHIEM
cPOLKULIZMYcSTATYA NEPOSTOYANNAYAcSTRELA PROSTAYAdMRACHNOTIKHAYAdKRYZHEVAYAdPOLUPOVODNAYA
dPOVODNAYAdNEPOSTOYANNAYAdKLYUCHEPOVODNAYAdKLYUCHENEPOSTOYANNAYAdTIKHAYA PUTNAYAdDVOECHELNAYA
dDVOECHELNOKRYZHEVAYAdDVOECHELNOPOVODNAYAdDVOECHELNAYA KLYUCHEVAYA
dDVOECHELNOPOVODNAYA KLYUCHEVAYAdGROMNAYA WITH SINGLE ZAPYATAYA
dGROMOPOVODNAYA WITH SINGLE ZAPYATAYAdGROMNAYAdGROMOPOVODNAYAeWITH DOUBLE ZAPYATAYA
dGROMOKRYZHEVAYAePOVODNAYAcMECHIKdPOVODNYdKLYUCHEVOYdKLYUCHEPOVODNYdKLYUCHENEPOSTOYANNY
cSTRELA TRYASOGLASNAYAdTRYASOPOVODNAYAdTRYASOSTRELNAYAcOSOKAdSVETLAYAdTRESVETLAYA
dKRYUKOVAYA SVETLAYAdKLYUCHEVAYA SVETLAYAeNEPOSTOYANNAYAcSTRELA KRYUKOVAYAePOVODNAYA
eGROMNAYA WITH SINGLE ZAPYATAYAeGROMOPOVODNAYA WITH SINGLE ZAPYATAYAeGROMNAYAeGROMOPOVODNAYA
fWITH DOUBLE ZAPYATAYAeGROMOKRYZHEVAYAfPOVODNAYAeTRYASKAcKUFISMAcOBLAKOcDUDAcNEMKAcPAUK")]

end SourceLedger.CharacterName
