/-!
# Names in alphabets

The names of the characters from `U+0020` to `U+0FFF`, those with computed names aside, in the short
form that `CharacterName.search` reads (Unicode 14).
-/

namespace ProposalCheck.Text.CharacterName

/-- The names in the alphabets of Europe, the Middle East and India. -/
def alphabetNames : List String := [
  "@20@aSPACEfEXCLAMATION?qQUOTATION?oNUMBER.lDOLLAR.lPERCENT.mAMPERSANDiPOSTROPHEk[PARENTHESISq]",
  "PARENTHESISrASTERISKiPLUS.jCOMMAfHYPHEN-MINUSmFULL STOPjSOLIDUShDIGIT ZEROeONEdTWOcHREEfFOURdI",
  "VEeSIXcEVENfEIGHTfNINEkCOLONfSEMICOLONjLESS-THAN.oEQUALS.lGREATER-THAN.rQUESTION?nCOMMERCIAL A",
  "TnLATIN $!AbBbCbDbEbFbGbHbIbJbKbLbMbNbObPbQbRbSbTbUbVbWbXbYbZvEFT SQUARE BRACKETtREVERSE SOLID",
  "USoIGHT SQUARE BRACKETuCIRCUMFLEX ACCENTrLOW LINEiGRAVE ACCENTmLATIN %!AbBbCbDbEbFbGbHbIbJbKbL",
  "bMbNbObPbQbRbSbTbUbVbWbXbYbZtEFT CURLY BRACKETs|LINEn]CURLY BRACKETtTILDE@a0@fNO-BREAK SPACEoI",
  "NVERTED EXCLAMATION?zaCENT.jPOUND.kCURRENCY.nYEN.iBROKEN BARkSECTION.mDIAERESISjCOPY]SIGNoFEMI",
  "NINE ORDINAL INDICATORzbLEFT-POINTING :ANGLE QUOTATION?zqNOT.iSOFT HYPHENlREGISTERED.pMACRONgD",
  "EGREE.lPLUS-MINUS.pSUPERSCRIPT TWOcHREErACUTE ACCENTmMICRO.kPILCROW.mMIDDLE DOTkCEDILLAhSUPERS",
  "CRIPT ONEpMASCULINE ORDINAL INDICATORzcRIGHT-POINTING :ANGLE QUOTATION?zrVULGAR FRACTION ONE Q",
  "UARTERhHALFiTHREE QUARTERSzfINVERTED QUESTION?wLATIN $!A#GRAVEfACUTEfCIRCUMFLEXkTILDEfDIAERESI",
  "SjRING+qEcC#CEDILLAoE#GRAVEfACUTEfCIRCUMFLEXkDIAERESISqI#GRAVEfACUTEfCIRCUMFLEXkDIAERESISqETHd",
  "N#TILDEmO#GRAVEfACUTEfCIRCUMFLEXkTILDEfDIAERESISzmMULTIPLICATION.tLATIN $!O#STROKEnU#GRAVEfACU",
  "TEfCIRCUMFLEXkDIAERESISqY#ACUTEmTHORNu%!SHARP ShA#GRAVEfACUTEfCIRCUMFLEXkTILDEfDIAERESISjRING+",
  "qEcC#CEDILLAoE#GRAVEfACUTEfCIRCUMFLEXkDIAERESISqI#GRAVEfACUTEfCIRCUMFLEXkDIAERESISqETHdN#TILDE",
  "mO#GRAVEfACUTEfCIRCUMFLEXkTILDEfDIAERESISzkDIVISION.nLATIN %!O#STROKEnU#GRAVEfACUTEfCIRCUMFLEX",
  "kDIAERESISqY#ACUTEmTHORNfY#DIAERESISze$!A#MACRONzd%!A#MACRONzb$!A#BREVEzc%!A#BREVEza$!A#OGONEK",
  "zd%!A#OGONEKzb$!C#ACUTEzc%!C#ACUTEza$!C#CIRCUMFLEXzh%!C#CIRCUMFLEXzf$!C#DOT+zg%!C#DOT+ze$!C#CA",
  "RONzc%!C#CARONza$!D#CARONzc%!D#CARONza$!D#STROKEzd%!D#STROKEzb$!E#MACRONzd%!E#MACRONzb$!E#BREV",
  "Ezc%!E#BREVEza$!E#DOT+zg%!E#DOT+ze$!E#OGONEKzd%!E#OGONEKzb$!E#CARONzc%!E#CARONza$!G#CIRCUMFLEX",
  "zh%!G#CIRCUMFLEXzf$!G#BREVEzc%!G#BREVEza$!G#DOT+zg%!G#DOT+ze$!G#CEDILLAze%!G#CEDILLAzc$!H#CIRC",
  "UMFLEXzh%!H#CIRCUMFLEXzf$!H#STROKEzd%!H#STROKEzb$!I#TILDEzc%!I#TILDEza$!I#MACRONzd%!I#MACRONzb",
  "$!I#BREVEzc%!I#BREVEza$!I#OGONEKzd%!I#OGONEKzb$!I#DOT+zg%!DOTLESS Iw$LIGATURE IJt%LIGATURE IJr",
  "$!J#CIRCUMFLEXzh%!J#CIRCUMFLEXzf$!K#CEDILLAze%!K#CEDILLAnRAq$!L#ACUTEzc%!L#ACUTEza$!L#CEDILLAz",
  "e%!L#CEDILLAzc$!L#CARONzc%!L#CARONza$!L#MIDDLE DOTzh%!L#MIDDLE DOTzf$!L#STROKEzd%!L#STROKEzb$!",
  "N#ACUTEzc%!N#ACUTEza$!N#CEDILLAze%!N#CEDILLAzc$!N#CARONzc%!N#CARONkPRECEDED BY APOSTROPHEzm$!E",
  "NGs%!ENGq$!O#MACRONzd%!O#MACRONzb$!O#BREVEzc%!O#BREVEza$!O#:ACUTEzj%!O#:ACUTEzh$LIGATURE OEt%L",
  "IGATURE OEr$!R#ACUTEzc%!R#ACUTEza$!R#CEDILLAze%!R#CEDILLAzc$!R#CARONzc%!R#CARONza$!S#ACUTEzc%!",
  "S#ACUTEza$!S#CIRCUMFLEXzh%!S#CIRCUMFLEXzf$!S#CEDILLAze%!S#CEDILLAzc$!S#CARONzc%!S#CARONza$!T#C",
  "EDILLAze%!T#CEDILLAzc$!T#CARONzc%!T#CARONza$!T#STROKEzd%!T#STROKEzb$!U#TILDEzc%!U#TILDEza$!U#M",
  "ACRONzd%!U#MACRONzb$!U#BREVEzc%!U#BREVEza$!U#RING+zh%!U#RING+zf$!U#:ACUTEzj%!U#:ACUTEzh$!U#OGO",
  "NEKzd%!U#OGONEKzb$!W#CIRCUMFLEXzh%!W#CIRCUMFLEXzf$!Y#CIRCUMFLEXzh%!Y#CIRCUMFLEXzf$!Y#DIAERESIS",
  "qZ#ACUTEzc%!Z#ACUTEza$!Z#DOT+zg%!Z#DOT+ze$!Z#CARONzc%!Z#CARONmLONG SgB#STROKEzb$!B#HOOKeTOPBAR",
  "zd%!B#TOPBARzb$!TONE SIXx%!TONE SIXv$!OPEN OgC#HOOKzb%!C#HOOKy$!AFRICAN DjD#HOOKeTOPBARzd%!D#T",
  "OPBARnTURNED DELTAza$!REVERSED EkSCHWAfOPEN EgF#HOOKzb%!F#HOOKy$!G#HOOKkAMMAu%!HVp$!IOTAd#STRO",
  "KEnK#HOOKzb%!K#HOOKlL#BARjAMBDA#STROKEzg$!TURNED MiN#[HOOKzg%!N#LONG ]LEGzj$!O#MIDDLE TILDEmHO",
  "RNzb%!O#HORNy$!OIr%!OIp$!P#HOOKzb%!P#HOOKy!YRj$!TONE TWOx%!TONE TWOv$!ESHs!REVERSED ESH LOOPy%",
  "!T#PALATAL HOOKzh$!T#HOOKzb%!T#HOOKy$!T#RETROFLEX HOOKvU#HORNzb%!U#HORNy$!UPSILONhV#HOOKlY#HOO",
  "Kzb%!Y#HOOKy$!Z#STROKEzd%!Z#STROKEzb$!EZHa REVERSEDzc%!EZH REVERSEDiWITH TAILzb!TWO#STROKEw$!T",
  "ONE FIVEy%!TONE FIVEw!INVERTED GLOTTAL STOP#STROKEziWYNNeDENTAL CLICKmLATERAL CLICKnALVEOLAR C",
  "LICKoRETROFLEX CLICKw$!DZ#CARONm#%!Z#CARONzw%!DZ#CARONzb$!LJb#%!Jzl%!LJp$!NJb#%!Jzl%!NJp$!A#CA",
  "RONzc%!A#CARONza$!I#CARONzc%!I#CARONza$!O#CARONzc%!O#CARONza$!U#CARONzc%!U#CARONza$!U#DIAERESI",
  "S&MACRONzr%!U#DIAERESIS&MACRONzp$!U#DIAERESIS&ACUTEzq%!U#DIAERESIS&ACUTEzo$!U#DIAERESIS&CARONz",
  "q%!U#DIAERESIS&CARONzo$!U#DIAERESIS&GRAVEzq%!U#DIAERESIS&GRAVEzbTURNED Ev$!A#DIAERESIS&MACRONz",
  "r%!A#DIAERESIS&MACRONzp$!A#DOT+&MACRONzr%!A#DOT+&MACRONzp$!AE#MACRONze%!AE#MACRONzc$!G#STROKEz",
  "d%!G#STROKEzb$!G#CARONzc%!G#CARONza$!K#CARONzc%!K#CARONza$!O#OGONEKzd%!O#OGONEKzb$!O#OGONEK&MA",
  "CRONzo%!O#OGONEK&MACRONzm$!EZH#CARONze%!EZH#CARONoJ#CARONza$!DZb#%!Zzl%!DZp$!G#ACUTEzc%!G#ACUT",
  "Eza$!HWAIRfWYNNeN#GRAVEzc%!N#GRAVEza$!A#RING+&ACUTEzr%!A#RING+&ACUTEzp$!AE#ACUTEzd%!AE#ACUTEzb",
  "$!O#STROKE&ACUTEzn%!O#STROKE&ACUTEzl$!A#:GRAVEzj%!A#:GRAVEzh$!A#INVERTED BREVEzl%!A#INVERTED B",
  "REVEzj$!E#:GRAVEzj%!E#:GRAVEzh$!E#INVERTED BREVEzl%!E#INVERTED BREVEzj$!I#:GRAVEzj%!I#:GRAVEzh",
  "$!I#INVERTED BREVEzl%!I#INVERTED BREVEzj$!O#:GRAVEzj%!O#:GRAVEzh$!O#INVERTED BREVEzl%!O#INVERT",
  "ED BREVEzj$!R#:GRAVEzj%!R#:GRAVEzh$!R#INVERTED BREVEzl%!R#INVERTED BREVEzj$!U#:GRAVEzj%!U#:GRA",
  "VEzh$!U#INVERTED BREVEzl%!U#INVERTED BREVEzj$!S#COMMA,zi%!S#COMMA,zg$!T#COMMA,zi%!T#COMMA,zg$!",
  "YOGHt%!YOGHr$!H#CARONzc%!H#CARONza$!N#LONG ]LEGzl%!D#CURLy$!OUr%!OUp$!Z#HOOKzb%!Z#HOOKy$!A#DOT",
  "+zg%!A#DOT+ze$!E#CEDILLAze%!E#CEDILLAzc$!O#DIAERESIS&MACRONzr%!O#DIAERESIS&MACRONzp$!O#TILDE&M",
  "ACRONzn%!O#TILDE&MACRONzl$!O#DOT+zg%!O#DOT+ze$!O#DOT+&MACRONzr%!O#DOT+&MACRONzp$!Y#MACRONzd%!Y",
  "#MACRONnL#CURLlN#CURLlT#CURLlDOTLESS JiB DIGRAPHkQP DIGRAPHx$!A#STROKEnC#STROKEzd%!C#STROKEzb$",
  "!L#BARkT#DIAGONAL STROKEzm%!S#SWASH TAILrZ#SWASH TAILzf$!GLOTTAL STOPzc%!GLOTTAL STOPza$!B#STR",
  "OKEnU BARfTURNED ViE#STROKEzd%!E#STROKEzb$!J#STROKEzd%!J#STROKEzb$!%Q#HOOK TAILzm%!Q#HOOK TAIL",
  "ze$!R#STROKEzd%!R#STROKEzb$!Y#STROKEzd%!Y#STROKEnTURNED AiALPHAfTURNED ALPHAmB#HOOKlOPEN OgC#C",
  "URLlD#TAILeHOOKlREVERSED EkSCHWAa#HOOKpOPEN EgREVERSED OPEN Ea#HOOKzaCLOSED REVERSED OPEN EwDO",
  "TLESS J#STROKEvG#HOOKlSCRIPT Gv!%$Gw%!GAMMAfRAMS HORNjTURNED HiH#HOOKkENG#HOOKoI#STROKEmOTAr!%",
  "$Iw%!L#MIDDLE TILDEmBELTeRETROFLEX HOOKuEZHeTURNED Ma#LONG LEGwM#HOOKlN#[HOOKjRETROFLEX HOOKzj",
  "!%$Nw%!BARRED Ov!%$OEx%!CLOSED OMEGAmPHIdTURNED Ra#LONG LEGiHOOKsR#LONG LEGiTAILeFISHHOOKoEVER",
  "SED R#FISHHOOKzm!%$RbINVERTED Rzg%!S#HOOKlESHdDOTLESS J#STROKE&HOOKzfSQUAT REVERSED ESHsESH#CU",
  "RLnTURNED Th#RETROFLEX HOOKvU BARePSILONhV#HOOKlTURNED VbWbYv!%$Yw%!Z#RETROFLEX HOOKoCURLlEZHa",
  "#CURLzb!GLOTTAL STOPmPHARYNGEAL VOICED FRICATIVEzcINVERTED GLOTTAL STOPvSTRETCHED ClBILABIAL C",
  "LICKo%$Bw%!CLOSED OPEN Ezb!%$G#HOOKlHw%!J#CROSSED-TAILtTURNED Kv!%$Lw%!Q#HOOKy!GLOTTAL STOP#ST",
  "ROKEyREVERSED GLOTTAL STOP#STROKEzp%!DZ DIGRAPHjEZH DIGRAPHlZ DIGRAPH#CURLuTS DIGRAPHjESH DIGR",
  "APHlC DIGRAPH#CURLuFENG DIGRAPHmLS DIGRAPHjZ DIGRAPHx!BILABIAL PERCUSSIVErDENTAL PERCUSSIVEzb%",
  "!TURNED H#FISHHOOKa&TAILzzaMODIFIER !%Ha#HOOKlJbRbTURNED Ra#HOOKs$INVERTED RsWbYhPRIMEf:PRIMEm",
  "TURNED COMMAmAPOSTROPHEkREVERSED COMMAnIGHT HALF RINGp[HALF RINGoGLOTTAL STOPmREVERSED GLOTTAL",
  " STOPv[^HEADo]^HEADpUP ^HEADmDOWN ^HEADoCIRCUMFLEX ACCENTziCARONfMODIFIER !|LINEnMACRONgACUTE ",
  "ACCENTmGRAVE ACCENTmLOW |LINEnMACRONgGRAVE ACCENTmACUTE ACCENTqTRIANGULAR COLONqHALF TRIANGULA",
  "R COLONvCENTRED ]HALF RINGp[HALF RINGwUP TACKhDOWN TACKjPLUS.jMINUS.zbBREVEfDOT+jRING+kOGONEKg",
  "%TILDEl:ACUTE ACCENTtMODIFIER !RHOTIC HOOKlCROSS ACCENTm%GAMMAfLbSbXbREVERSED GLOTTAL STOPzcEX",
  "TRA-HIGH TONE BARtHIGH TONE BARnMID TONE BARmLOW TONE BARmEXTRA-LOW TONE BARsYIN DEPARTING TON",
  "E?wANG DEPARTING TONE?yVOICINGhUNASPIRATEDl:APOSTROPHErLOW DOWN ^HEADoUP ^HEADm[^HEADo]^HEADnN",
  "GiMIDDLE GRAVE ACCENTm:GRAVE ACCENTmACUTE ACCENTzbLOW TILDEjRAISED COLONmBEGIN HIGH TONEpEND H",
  "IGH TONEnBEGIN LOW TONEoEND LOW TONEmSHELFfOPEN SHELFkLOW [^zfCOMBINING GRAVE ACCENTmACUTE ACC",
  "ENTmCIRCUMFLEX ACCENTrTILDEfMACRONgOVERLINEiBREVEfDOT+iIAERESISjHOOK+kRING+k:ACUTE ACCENTtCARO",
  "Nf|LINE+t:|LINE+tGRAVE ACCENTtCANDRABINDUlINVERTED BREVEoTURNED COMMA+sCOMMA+lREVERSED COMMA+u",
  "COMMA+ RIGHTrGRAVE ACCENT,sACUTE ACCENT,s[TACK,p]TACK,q[ANGLE+qHORNe[HALF RING,uUP TACK,nDOWN ",
  "TACK,pPLUS.,pMINUS.,qPALATALIZED HOOK,wRETROFLEX HOOK,uDOT,iIAERESIS,pRING,kCOMMA,kEDILLAhOGON",
  "EKg|LINE,tBRIDGE,mINVERTED :ARCH,zbCARON,kIRCUMFLEX ACCENT,xBREVE,lINVERTED BREVE,uTILDE,lMACR",
  "ON,mLOW LINEi:LOW LINEpTILDE OVERLAYnSHORT STROKE OVERLAYuLONG STROKE OVERLAYtSHORT SOLIDUS OV",
  "ERLAYvLONG SOLIDUS OVERLAYu]HALF RING,vINVERTED BRIDGE,vSQUARE,lEAGULL,nX+h|TILDEo:OVERLINEpGR",
  "AVE TONE?pACUTE TONE?pGREEK PERISPOMENIlKORONIShDIALYTIKA TONOSpYPOGEGRAMMENItBRIDGE+mEQUALS.,",
  "r:|LINE,zb[ANGLE,qNOT TILDE+pHOMOTHETIC+qALMOST EQUAL TO+v[]^,wUPWARDS ^,tGRAPHEME JOINERp]^HE",
  "AD+v[HALF RING+uFERMATAhX,h[^HEAD,u]^HEAD,fAND UP ^HEAD,zhHALF RING+vDOT+ RIGHTpASTERISK,o:RIN",
  "G,rZIGZAG+m:BREVE,gfMACRONa,mTILDEfINVERTED BREVEo>^,zeLATIN %!AbEbIbObUbCbDbHbMbRbTbVbXzfGREE",
  "K $!HETAt%!HETAr$!ARCHAIC SAMPIzd%!ARCHAIC SAMPIzbNUMERAL.mLOWER NUMERAL.s$!PAMPHYLIAN DIGAMMA",
  "zi%!PAMPHYLIAN DIGAMMA@37a@zgYPOGEGRAMMENIn%REVERSED LUNATE SIGMA SYMBOLzdDOTTED LUNATE SIGMA ",
  "SYMBOLzbREVERSED DOTTED LUNATE SIGMA SYMBOLzqQUESTION?n$!YOT@384@sTONOSfDIALYTIKA TONOSp$!ALPH",
  "A#TONOSzgANO TELEIAk$!EPSILON#TONOSrTA#TONOSoIOTA#TONOS@38c@pOMICRON#TONOS@38e@sUPSILON#TONOSs",
  "OMEGA#TONOSzg%!IOTA#DIALYTIKA&TONOSzr$!ALPHAfBETAeGAMMAfDELTAfEPSILONhZETAeETAdTHETAfIOTAeKAPP",
  "AfLAMDAfMUcNUcXIcOMICRONhPIcRHO@3a3@dSIGMAfTAUdUPSILONhPHIdCHIdPSIdOMEGAfIOTA#DIALYTIKAtUPSILO",
  "N#DIALYTIKAzm%!ALPHA#TONOSqEPSILON#TONOSrTA#TONOSoIOTA#TONOSpUPSILON#DIALYTIKA&TONOSzhALPHAfBE",
  "TAeGAMMAfDELTAfEPSILONhZETAeETAdTHETAfIOTAeKAPPAfLAMDAfMUcNUcXIcOMICRONhPIcRHOdFINAL SIGMAlSIG",
  "MAfTAUdUPSILONhPHIdCHIdPSIdOMEGAfIOTA#DIALYTIKAtUPSILON#DIALYTIKAwOMICRON#TONOSsUPSILON#TONOSs",
  "OMEGA#TONOSze$KAI SYMBOLsBETA SYMBOLlTHETA SYMBOLmUPSILON#HOOK SYMBOLlACUTE&HOOK SYMBOLvDIAERE",
  "SIS&HOOK SYMBOLznPHI SYMBOLjI SYMBOLjKAI SYMBOLk!ARCHAIC KOPPAu%!ARCHAIC KOPPAzb!STIGMAn%!STIG",
  "MAt!DIGAMMAo%!DIGAMMAu!KOPPAm%!KOPPAs!SAMPIm%!SAMPIyCOPTIC $!SHEIt%!SHEIr$!FEIs%!FEIq$!KHEIt%!",
  "KHEIr$!HORIt%!HORIr$!GANGIAv%!GANGIAt$!SHIMAu%!SHIMAs$!DEIs%!DEIxGREEK KAPPA SYMBOLmRHO SYMBOL",
  "kLUNATE SIGMA SYMBOLsETTER YOTk$THETA SYMBOLuLUNATE EPSILON SYMBOLvREVERSED LUNATE EPSILON SYM",
  "BOLzf$!SHOs%!SHOq$LUNATE SIGMA SYMBOLsETTER SANs%!SANqRHO#STROKE SYMBOLw$REVERSED LUNATE SIGMA",
  " SYMBOLzdDOTTED LUNATE SIGMA SYMBOLzbREVERSED DOTTED LUNATE SIGMA SYMBOLzyCYRILLIC $!IE#GRAVEm",
  "OcDJEdGJEdUKRAINIAN IEmDZEdBYELORUSSIAN-UKRAINIAN IyYIcJEcLJEdNJEdTSHEeKJEdI#GRAVEmSHORT UhDZH",
  "EeAbBEcVEcGHEdDEcIEcZHEcEcIbSHORT IhKAcELbMbNcObPEcERbScTEcUbEFcHAcTSEdCHEdSHAbCHAfHARD.jYERUe",
  "SOFT.jEbYUbAr%!AbBEcVEcGHEdDEcIEcZHEcEcIbSHORT IhKAcELbMbNcObPEcERbScTEcUbEFcHAcTSEdCHEdSHAbCH",
  "AfHARD.jYERUeSOFT.jEbYUbAcIE#GRAVEmOcDJEdGJEdUKRAINIAN IEmDZEdBYELORUSSIAN-UKRAINIAN IyYIcJEcL",
  "JEdNJEdTSHEeKJEdI#GRAVEmSHORT UhDZHEr$!OMEGAu%!OMEGAs$!YATs%!YATq$!IOTIFIED Eza%!IOTIFIED Ex$!",
  "LITTLE YUSza%!LITTLE YUSx$!IOTIFIED LITTLE YUSzj%!IOTIFIED LITTLE YUSzh$!BIG YUSw%!BIG YUSu$!I",
  "OTIFIED BIG YUSzg%!IOTIFIED BIG YUSze$!KSIs%!KSIq$!PSIs%!PSIq$!FITAt%!FITAr$!IZHITSAw%!IZHITSA",
  "u$!IZHITSA#:GRAVE ACCENTzw%!IZHITSA#:GRAVE ACCENTzu$!UKr%!UKp$!ROUND OMEGAzb%!ROUND OMEGAy$!OM",
  "EGA#TITLOzg%!OMEGA#TITLOze$!OTr%!OTp$!KOPPAu%!KOPPAsTHOUSANDS.wOMBINING CYRILLIC TITLOfPALATAL",
  "IZATIONoDASIA PNEUMATAoPSILI PNEUMATAnOKRYTIEiHUNDRED THOUSANDS.wMILLIONS.zgYRILLIC $!SHORT I#",
  "TAILzh%!SHORT I#TAILzf$!SEMISOFT.zd%!SEMISOFT.zb$!ER#TICKzc%!ER#TICKza$!GHE#UPTURNzf%!GHE#UPTU",
  "RNzd$!GHE#STROKEzf%!GHE#STROKEzd$!GHE#MIDDLE HOOKzk%!GHE#MIDDLE HOOKzi$!ZHE#DESCENDERzi%!ZHE#D",
  "ESCENDERzg$!ZE#DESCENDERzh%!ZE#DESCENDERzf$!KA#DESCENDERzh%!KA#DESCENDERzf$!KA#|STROKEzn%!KA#|",
  "STROKEzl$!KA#STROKEze%!KA#STROKEzc$!BASHKIR KAza%!BASHKIR KAx$!EN#DESCENDERzh%!EN#DESCENDERzf$",
  "LIGATURE EN GHEx%LIGATURE EN GHEv$!PE#MIDDLE HOOKzj%!PE#MIDDLE HOOKzh$!ABKHASIAN HAzc%!ABKHASI",
  "AN HAza$!ES#DESCENDERzh%!ES#DESCENDERzf$!TE#DESCENDERzh%!TE#DESCENDERzf$!STRAIGHT Uza%!STRAIGH",
  "T Ux$!STRAIGHT U#STROKEzm%!STRAIGHT U#STROKEzk$!HA#DESCENDERzh%!HA#DESCENDERzf$LIGATURE TE TSE",
  "x%LIGATURE TE TSEv$!CHE#DESCENDERzi%!CHE#DESCENDERzg$!CHE#|STROKEzo%!CHE#|STROKEzm$!SHHAt%!SHH",
  "Ar$!ABKHASIAN CHEzd%!ABKHASIAN CHEzb$!ABKHASIAN CHE#DESCENDERzs%!ABKHASIAN CHE#DESCENDERzq!PAL",
  "OCHKAp$!ZHE#BREVEze%!ZHE#BREVEzc$!KA#HOOKzc%!KA#HOOKza$!EL#TAILzc%!EL#TAILza$!EN#HOOKzc%!EN#HO",
  "OKza$!EN#TAILzc%!EN#TAILza$!KHAKASSIAN CHEze%!KHAKASSIAN CHEzc$!EM#TAILzc%!EM#TAILmPALOCHKAv$!",
  "A#BREVEzc%!A#BREVEza$!A#DIAERESISzg%!A#DIAERESISze$LIGATURE A IEv%LIGATURE A IEt$!IE#BREVEzd%!",
  "IE#BREVEzb$!SCHWAu%!SCHWAs$!SCHWA#DIAERESISzk%!SCHWA#DIAERESISzi$!ZHE#DIAERESISzi%!ZHE#DIAERES",
  "ISzg$!ZE#DIAERESISzh%!ZE#DIAERESISzf$!ABKHASIAN DZEzd%!ABKHASIAN DZEzb$!I#MACRONzd%!I#MACRONzb",
  "$!I#DIAERESISzg%!I#DIAERESISze$!O#DIAERESISzg%!O#DIAERESISze$!BARRED Ox%!BARRED Ov$!BARRED O#D",
  "IAERESISzn%!BARRED O#DIAERESISzl$!E#DIAERESISzg%!E#DIAERESISze$!U#MACRONzd%!U#MACRONzb$!U#DIAE",
  "RESISzg%!U#DIAERESISze$!U#:ACUTEzj%!U#:ACUTEzh$!CHE#DIAERESISzi%!CHE#DIAERESISzg$!GHE#DESCENDE",
  "Rzi%!GHE#DESCENDERzg$!YERU#DIAERESISzj%!YERU#DIAERESISzh$!GHE#STROKE&HOOKzo%!GHE#STROKE&HOOKzm",
  "$!HA#HOOKzc%!HA#HOOKza$!HA#STROKEze%!HA#STROKEzc$!KOMI DEw%!KOMI DEu$!KOMI DJEx%!KOMI DJEv$!KO",
  "MI ZJEx%!KOMI ZJEv$!KOMI DZJEy%!KOMI DZJEw$!KOMI LJEx%!KOMI LJEv$!KOMI NJEx%!KOMI NJEv$!KOMI S",
  "JEx%!KOMI SJEv$!KOMI TJEx%!KOMI TJEv$!REVERSED ZEzb%!REVERSED ZEy$!EL#HOOKzc%!EL#HOOKza$!LHAs%",
  "!LHAq$!RHAs%!RHAq$!YAEs%!YAEq$!QAr%!QAp$!WEr%!WEp$!ALEUT KAx%!ALEUT KAv$!EL#MIDDLE HOOKzj%!EL#",
  "MIDDLE HOOKzh$!EN#MIDDLE HOOKzj%!EN#MIDDLE HOOKzh$!PE#DESCENDERzh%!PE#DESCENDERzf$!SHHA#DESCEN",
  "DERzj%!SHHA#DESCENDERzh$!EN#[HOOKzh%!EN#[HOOKzf$!DZZHEu%!DZZHEs$!DCHEt%!DCHEr$!EL#DESCENDERzh%",
  "!EL#DESCENDER@531@zoARMENIAN $!AYBdBENdGIMdDAcECHdZAcEHbTcTOcZHEdINIdLIWNeXEHdCAcKENdHOcJAcGHA",
  "DeCHEHeMENdYIcNOWdSHAdVOcCHAdPEHdJHEHeRAcSEHdVEWdTIWNeREHdCOcYIWNePIWReKEHdOHcFEH@559@sMODIFIE",
  "R ![HALF RINGzfAPOSTROPHEkEMPHASIS?mXCLAMATION?qCOMMAfQUESTION?nABBREVIATION?r%!TURNED AYBkAYB",
  "dBENdGIMdDAcECHdZAcEHbTcTOcZHEdINIdLIWNeXEHdCAcKENdHOcJAcGHADeCHEHeMENdYIcNOWdSHAdVOcCHAdPEHdJ",
  "HEHeRAcSEHdVEWdTIWNeREHdCOcYIWNePIWReKEHdOHcFEHjIGATURE ECH YIWNqETTER YI#STROKEzcFULL STOPjHY",
  "PHEN@58d@pRIGHT-FACING ARMENIAN ETERNITY.zkLEFT-FACING ARMENIAN ETERNITY.zjARMENIAN DRAM.@591@",
  "sHEBREW ACCENT ETNAHTAhSEGOLeHALSHELETkZAQEF QATANfGADOLlTIPEHAgREVIAfZARQAfPASHTAgYETIVfTEVIR",
  "fGERESHa MUQDAMkSHAYIMjQARNEY PARAlTELISHA GEDOLAoPAZERfATNAH HAFUKHmMUNAHeAHAPAKHhERKHAa KEFU",
  "LAnDARGAfQADMAfTELISHA QETANAoYERAH BEN YOMOoOLEdILUYeDEHIeZINORmMARK MASORA CIRCLEsPOINT SHEV",
  "AfHATAF SEGOLfPATAHfQAMATSlIRIQfTSEREfSEGOLfPATAHfQAMATSgHOLAMa HASER FOR VAVtQUBUTSgDAGESH OR",
  " MAPIQpMETEGkUNCTUATION MAQAFqOINT RAFEjUNCTUATION PASEQqOINT SHIN DOThIN DOTmUNCTUATION SOF P",
  "ASUQvMARK UPPER DOTjLOWER DOToPUNCTUATION NUN HAFUKHAwOINT QAMATS QATAN@5d0@s!ALEFeBETdGIMELfD",
  "ALETfHEcVAVdZAYINfHETdTETdYODdFINAL KAFjKAFdLAMEDfFINAL MEMjMEMdFINAL NUNjNUNdSAMEKHgAYINeFINA",
  "L PEiPEcFINAL TSADIlTSADIfQOFdRESHeSHINeTAV@5ef@kYOD ;mLIGATURE YIDDISH :VAVkVAV YODh:YODzcPUN",
  "CTUATION GERESHdSHAYIM@600@zdARABIC NUMBER.lSIGN SANAHkFOOTNOTE?ERpSIGN SAFHAdMVATlNUMBER?+s-I",
  "NDIC CUBE ROOTjFOURTH ROOTs RAYe-INDIC PER MILLE.kTEN THOUSAND.ziFGHANI.lRABIC COMMAfDATE SEPA",
  "RATORoPOETIC VERSE.rSIGN MISRAfSALLALLAHOU ALAYHE WASSALLAMzdALAYHE ASSALLAMpRAHMATULLAH ALAYH",
  "EqDI ALLAHOU ANHUrTAKHALLUSnMALL HIGH TAHdLIGATURE ALEF#LAM#YEHzgZAINjFATHAfDAMMAfKASRAkEMICOL",
  "ONj!MARKlEND OF TEXT?qTRIPLE DOT PUNCTUATION?zcQUESTION?n!KASHMIRI YEHmHAMZAfALEF#MADDA+lHAMZA",
  "+vWAW#HAMZA+uALEF#HAMZA,vYEH#HAMZA+uALEFeBEHdTEH MARBUTAicHEHeJEEMeHAHdKHAHeDALdTHALeREHdZAINe",
  "SEENdHEENeADdDADdTAHdZAHdAINdGHAINfKEHEH#TWO DOTS+nHREE DOTS,zcFARSI YEH#INVERTED VkTWO DOTS+n",
  "HREE DOTS+znTATWEELh!FEHdQAFdKAFdLAMdMEEMeNOONeHEHdWAWdALEF MAKSURAmYEHkFATHATANiDAMMATANiKASR",
  "ATANiFATHAfDAMMAfKASRAfSHADDAfUKUNfMADDAH+mHAMZA+fBELOWlSUBSCRIPT ALEFoINVERTED DAMMAoMARK NOO",
  "N GHUNNAqZWARAKAYiVOWEL. %V+nINVERTED %V+wDOT,uREVERSED DAMMAoFATHA#TWO DOTStWAVY HAMZA,r-INDI",
  "C DIGIT ZEROeONEdTWOcHREEfFOURdIVEeSIXcEVENfEIGHTfNINEr PERCENT.mDECIMAL SEPARATORrTHOUSANDS S",
  "EPARATORtFIVE POINTED STARr!DOTLESS BEHdQAFlSUPERSCRIPT ALEFqALEF WASLAeITH WAVY HAMZA+fBELOWz",
  "bHIGH HAMZAa ALEFeWAWoU#HAMZA+sHIGH HAMZA YEHoTTEHaEHgBEEHeTEH#RINGeTHREE DOTS+ DOWNWARDSzkPEH",
  "dTEHEHfBEHEHfHAH#HAMZA+lTWO DOTS |ABOVEzhNYEHeDYEHeHAH#THREE DOTS+zaTCHEHaEHhDDALdAL#RINGeDOT,",
  "a&%TAHzfHALeDAHALfULcAL#THREE DOTS+ DOWNWARDSzbFOUR DOTS+yRREHdEH#%VhRINGeDOT,j%V,nDOT,&DOT+xT",
  "WO DOTS+xJEHdREH#FOUR DOTS+ySEEN#DOT,&DOT+xTHREE DOTS,a&THREE DOTS+zvAD#TWO DOTS,nHREE DOTS+za",
  "TAH#THREE DOTS+zaAIN#THREE DOTS+zaDOTLESS FEHlFEH#DOT MOVED,lBELOWsVEHdFEH#THREE DOTS,zaPEHEHf",
  "QAF#DOT+jTHREE DOTS+zaKEHEHfSWASH KAFjKAF#RINGeDOT+sNGcKAF#THREE DOTS,zaGAFa#RINGnNGOEHfGAF#TW",
  "O DOTS,wUEHdAF#THREE DOTS+zaLAM#%VhDOT+jTHREE DOTS+fBELOWzaNOON#DOT,oGHUNNAlRNOONfNOON#RINGeTH",
  "REE DOTS+zbHEH DOACHASHMEEpTCHEH#DOT+uHEH#YEH+oGOALa#HAMZA+zaTEH MARBUTA GOALqWAW#RINGnKIRGHIZ",
  " OEkOEcUbYUcKIRGHIZ YUkWAW#TWO DOTS+xVEcFARSI YEHjYEH#TAILe%VqWAW#DOT+sEbYEH#THREE DOTS,vBARRE",
  "Ea#HAMZA+zjFULL STOPj!AEj%HIGH LIGATURE SAD#LAM#ALEF MAKSURAzfQAF#LAM#ALEF MAKSURAzoMEEM INITI",
  "AL*rLAM ALEFiJEEMeTHREE DOTSkSEENpEND OF AYAHlSTART OF RUB EL HIZBtMALL HIGH ROUNDED ZEROmUP]R",
  "ECTANGULAR ZEROyDOTLESS HEAD OF KHAHuMEEM =*xLOW SEENiHIGH MADDAkWAWdYEHdHIGH YEHdNOONpPLACE O",
  "F SAJDAHpEMPTY CENTRE LOW STOPiHIGH STOPwROUNDED HIGH STOP#FILLED CENTREzl%LOW MEEMo!DAL#INVER",
  "TED VtREH#INVERTED VziEXTENDED ARABIC-INDIC DIGIT ZEROeONEdTWOcHREEfFOURdIVEeSIXcEVENfEIGHTfNI",
  "NEzhARABIC !SHEEN#DOT,uDAD#DOT,sGHAIN#DOT,zcSIGN SINDHI AMPERSANDjPOSTPOSITION MENzd!HEH#INVER",
  "TED VziSYRIAC END OF PARAGRAPHqSUPRALINEAR FULL STOPtBLINEAR FULL STOPrPRALINEAR COLONpBLINEAR",
  " COLONp(COLONqCOLON SKEWED LEFTeRIGHTsSUPRALINEAR COLON SKEWED LEFTzcBLINEAR COLON SKEWED RIGH",
  "TzdCONTRACTIONlHARKLEAN OBELUSgMETOBELUSjASTERISCUS@70f@tABBREVIATION?r!ALAPHfSUPERSCRIPT ALAP",
  "HrBETHeGAMALa GARSHUNIoDALATHfOTLESS DALATH RISHtHEcWAWdZAINeHETHeTETHa GARSHUNInYUDHa HEhKAPH",
  "eLAMADHgMIMdNUNdSEMKATHhFINAL SEMKATHnEbPEcREVERSED PElSADHEfQAPHeRISHeSHINeTAWdPERSIAN BHETHf",
  "GHAMALgDHALATHwPTHAHA+fBELOWfDOTTEDnZQAPHA+fBELOWfDOTTEDnRBASA+fBELOWlDOTTED ZLAMA HORIZONTALk",
  "ANGULARuHBASA+fBELOWg-ESASA DOTTEDsESASA+fBELOWlRWAHAfFEMININE DOTmQUSHSHAYAjRUKKAKHAiTWO |DOT",
  "S+fBELOWwHREE DOTS+fBELOWqOBLIQUE LINE+fBELOWsMUSICfBARREKH@74d@h!SOGDIAN ZHAINfKHAPHfFEyARABI",
  "C !BEH#THREE DOTS HORIZONTALLY,zeDOT,&THREE DOTS+zfTHREE DOTS POINTING UPWARDS,a&TWO DOTS+zzbW",
  "O DOTS,&DOT+zdINVERTED %V,w%VqHAH#TWO DOTS+nHREE DOTS POINTING UPWARDS,zrDAL#TWO DOTS VERTICAL",
  "LY,&%TAHzoINVERTED %V,zgREH#STROKEpSEEN#FOUR DOTS+zaAIN#TWO DOTS+nHREE DOTS POINTING DOWNWARDS",
  "+zjWO DOTS VERTICALLY+zjFEH#TWO DOTS,nHREE DOTS POINTING UPWARDS,zrKEHEH#DOT+jTHREE DOTS+fPOIN",
  "TING UPWARDS,ztMEEM#DOT+fBELOWtNOON#TWO DOTS,o%TAHdVrLAM#BARmREH#TWO DOTS VERTICALLY+zaHAMZA+u",
  "SEEN#TWO DOTS VERTICALLY+zkHAH#%ARABIC !TAH,fAND TWO DOTSzuSEEN#%ARABIC !TAH&TWO DOTSzvREH#%AR",
  "ABIC !TAH&TWO DOTSzuHAH#%ARABIC !TAH+znALEF#EXTENDED ARABIC-INDIC DIGIT TWO+iHREE+zyFARSI YEH#",
  "EXTENDED ARABIC-INDIC DIGIT TWO+iHREE+lFOUR,zzdWAW#EXTENDED ARABIC-INDIC DIGIT TWO+iHREE+zxYEH",
  " BARREE#EXTENDED ARABIC-INDIC DIGIT TWO+iHREE+zzfHAH#EXTENDED ARABIC-INDIC DIGIT FOUR,zwSEEN#E",
  "XTENDED ARABIC-INDIC DIGIT FOUR+znINVERTED VuKAF#TWO DOTS+zmTHAANA !HAAdSHAVIYANIjNOONUfRAAdBA",
  "AdLHAVIYANIjKAAFUfALIFUfVAAVUfMEEMUfFAAFUfDHAALUgTHAAeLAAMUfGAAFUeNAVIYANIjSEENUfDAVIYANIiZAVI",
  "YANIiTAVIYANIiYAAdPAVIYANIiJAVIYANIiCHAVIYANIjTTAAeHHAAeKHAAeTHAALUgZAAdSHEENUfAADHUgDAADHUgTO",
  "cZOcAINUeGHAINUgQAAFUfWAAVUmABAFILIgABAAFILIjIBIFILIhEEBEEFILIjUBUFILIhOOBOOFILIjEBEFILIgYBEYF",
  "ILIjOBOFILIgABOAFILIjSUKUNf!NAA@7c0@rNKO DIGIT ZEROeONEdTWOcHREEfFOURdIVEeSIXcEVENfEIGHTfNINEk",
  "!AbEEcIbEbUbOObbDAGBASINNAkNbBAcPAcTAcJAcCHAdDAcRAbRAdSAcGBAdFAcKAcLAcNA WOLOSOjMAcNYAcAcHAcWA",
  "cYAcNYA WOLOSOkJONA JAcCHAdRAoCOMBINING SHORT HIGH TONEjLOW TONEiRISING TONErLONG DESCENDING T",
  "ONEpHIGH TONEjLOW TONEiRISING TONEqNASALIZATION?r:DOT+zbHIGH TONE APOSTROPHEuLOW TONE APOSTROP",
  "HEt~OO DENNENjGBAKURUNENrCOMMAfEXCLAMATION?qLAJANYALAN@7fd@kDANTAYALANjOROME.lTAMAN.oSAMARITAN",
  " !ALAFeBITdGAMANfDALATfIYcBAAdZENdITcTITdYUTdKAAFeLABATfMIMdNUNdSINGAAThINcFIcTSAADIYhQUFdRISH",
  "eSHANeTAAFlMARK INa-ALAFhOCCLUSIONjDAGESHkODIFIER !EPENTHETIC YUTzeARK EPENTHETIC YUTtVOWEL. L",
  "ONG EgEbOVERLONG AAlLONG AAhAAcOVERLONG AkLONG AgAmMODIFIER !SHORT AxVOWEL. SHORT AhLONG UgUmM",
  "ODIFIER !IrVOWEL. LONG IgIbObSUKUNqMARK NEQUDAA@830@mPUNCTUATION NEQUDAAhAFSAAQfNGEDfBAUdATMAA",
  "UgSHIYYAALAAwABBREVIATION?rPUNCTUATION MELODIC QITSAnZIQAAfQITSAfZAEFeTURUeARKAANUhSOF MASHFAA",
  "TmANNAAU@840@zdMANDAIC !HALQAfABbGbDbHcUSHENNAhAZcITcATTcKSAcbLbMbNbScINcAPbSZcQbRbSHcTcDUSHEN",
  "NAiKADdAINkAFFRICATION?qVOCALIZATION?rGEMINATION?@85e@pPUNCTUATION@860@tSYRIAC !MALAYALAM NGAd",
  "JAcNYAdTTAdNNAbNAeBHAdRAcLLAbLAeSSA@870@zcARABIC !ALEF#ATTACHED FATHAfTOP ]FATHAy]MIDDLE STROK",
  "Et[MIDDLE STROKEsATTACHED KASRAfBOTTOM ]KASRAsROUND DOT+oIGHT ROUND DOTp[ROUND DOToROUND DOT,y",
  "DOT+jATTACHED TOP ]FATHA&DOT+zn]MIDDLE STROKE&DOT+ziATTACHED BOTTOM ]KASRA&DOT+zhTOP ]FATHA&[R",
  "INGzn]MIDDLE STROKE&[RINGziATTACHED BOTTOM ]KASRA&[RINGzh]HAMZAl[HAMZAzlTATWEEL#OVERSTRUCK HAM",
  "ZAfWAWoTWO DOTS,zc!THIN YEHpBASELINE ROUND DOTsRAISED ROUND DOTq!NOON#INVERTED %VzbHAH#INVERTE",
  "D %V,zgTAH#DOT,jTHREE DOTS,zaKEHEH#TWO DOTS VERTICALLY,zs|TAIL@890@nPOUND?+pIASTRE?+@898@s%HIG",
  "H WORD AL-JUZqLOW WORD ISHMAAMgMAALAgTASHEELwMADDA WAAJIBmSUPERSCRIPT ALEF MOKHASSASzbDOUBLED ",
  "MADDAnHALF MADDA OVER MADDAv!BEH#%V,nHAMZA+uJEEM#TWO DOTS+yTAH#TWO DOTS+xFEH#DOT,&THREE DOTS+z",
  "oQAF#DOT,sLAM#:BARtMEEM#THREE DOTS+zbYEH#TWO DOTS,&HAMZA+lDOT+zmREH#LOOPnWAW#DOT WITHINtROHING",
  "YA YEHmLOW ALEFiDAL#THREE DOTS,zaSAD#THREE DOTS,zaGAF#INVERTED STROKEySTRAIGHT WAWmZAIN#INVERT",
  "ED V+zbAIN#THREE DOTS,zaKAF#DOT,sQAF#DOT,&NO DOTS+zlBEH#%MEEM+zaPEH#%MEEM+zaTEH#%TEH+yREH#%NOO",
  "N+zaYEH#TWO DOTS,&%NOON+ztAFRICAN FEHdQAFdNOONmPEH#%VqTEH#%VpTEH#%VqCHEH#%VsKEHEH#%VsGHAIN#THR",
  "EE DOTS+zcAFRICAN QAF#THREE DOTS+ziJEEM#THREE DOTS+fBELOWzbLAM#%ARABIC !TAH+znGRAFl%FARSI YEHj",
  "HIGH FARSI YEHjYEH BARREE#TWO DOTS,zfWORD SAHiZAHoLARGE ROUND DOT+fBELOWvSUKUN,lLARGE CIRCLE,m",
  "ROUND DOT INSIDE CIRCLE,zk%LOW WAWhHIGH WORD AR-RUBlSADdAINdQAFdNOON#KASRAuLOW NOON#KASRAtHIGH",
  " WORD ATH-THALATHAlS-SAJDAhN-NISFhSAKTAfQIFdWAQFAkFOOTNOTE?ERpSIGN SAFHAvDISPUTED END OF AYAHu",
  "TURNED DAMMA,sCURLY FATHAfDAMMAfKASRAfFATHATANiDAMMATANiKASRATANoTONE ONE DOT+nTWO DOTS+oLOOP+",
  "kONE DOT,nTWO DOTS,oLOOP,pOPEN FATHATANiDAMMATANiKASRATANn%HIGH WAWoFATHA#RINGeDOT+uKASRA#DOT,",
  "u[^HEAD+u]^HEAD+v[^HEAD,u]^HEAD,v:]^HEAD+a#DOTzm]^HEAD+#DOTzfDAMMA#DOToMARK SIDEWAYS NOON GHUN",
  "NAzhDEVANAGARI. INVERTED CANDRABINDUuCANDRABINDUlANUSVARAiVISARGAm!SHORT AhAaAcIaIcUaUcVOCALIC",
  " RbLjCANDRA EiSHORT EhEbAIcCANDRA OiSHORT OhObAUcKAbHAdGAbHAdNGAdCAbHAdJAbHAdNYAdTTAbHAeDDAbHA",
  "eNNAdTAbHAdDAbHAdNAbNNAePAbHAdBAbHAdMAcYAcRAbRAdLAbLAbLAeVAcSHAcSAcAcHAjVOWEL. OEbOEoSIGN NUKT",
  "AfAVAGRAHAnVOWEL. AAcIaIcUaUcVOCALIC RaRkCANDRA EiSHORT EhEbAIcCANDRA OiSHORT OhObAUnSIGN VIRA",
  "MAlVOWEL. PRISHTHAMATRA EpAWnOMcSTRESS. UDATTAgANUDATTAuGRAVE ACCENTmACUTE ACCENTmVOWEL. CANDR",
  "A LONG EnUEbUEo!QAcKHHAeGHHAeZAcDDDHAfRHAdFAcYYAdVOCALIC RRcLLrVOWEL. VOCALIC LaLvDANDAeOUBLE ",
  "DANDAlIGIT ZEROeONEdTWOcHREEfFOURdIVEeSIXcEVENfEIGHTfNINEkABBREVIATION.rSIGN HIGH SPACING DOTv",
  "!CANDRA AiOEbOEdAWcUEbUEdMARWARI DDAlZHAdHEAVY YAiGGAdJJAdGLOTTAL STOPmDDDAeBBAvBENGALI ANJIeS",
  "IGN CANDRABINDUlANUSVARAiVISARGA@985@m!AaAcIaIcUaUcVOCALIC RbL@98f@jEbAI@993@cObAUcKAbHAdGAbHA",
  "dNGAdCAbHAdJAbHAdNYAdTTAbHAeDDAbHAeNNAdTAbHAdDAbHAdNA@9aa@cPAbHAdBAbHAdMAcYAcRA@9b2@cLA@9b6@cS",
  "HAcSAcAcHA@9bc@jSIGN NUKTAfAVAGRAHAnVOWEL. AAcIaIcUaUcVOCALIC RaR@9c7@kEbAI@9cb@cObAUnSIGN VIR",
  "AMAl!KHANDA TA@9d7@qAU LENGTH?@9dc@o!RRAcHA@9df@dYYAdVOCALIC RRcLLrVOWEL. VOCALIC LaL@9e6@vDIG",
  "IT ZEROeONEdTWOcHREEfFOURdIVEeSIXcEVENfEIGHTfNINEk!RA#MIDDLE DIAGONALpLOWER DIAGONALzeRUPEE?eS",
  "IGNkCURRENCY NUMERATOR ONEdTWOcHREEfFOUReONE LESS THAN THE DENOMINATORzoDENOMINATOR SIXTEENzdI",
  "SSHARgGANDA?k!VEDIC ANUSVARAvABBREVIATION.rSANDHI?@a01@tGURMUKHI. ADAK BINDIkBINDIfVISARGA@a05",
  "@m!AaAcIaIcUaU@a0f@cEEcAI@a13@cOOcAUcKAbHAdGAbHAdNGAdCAbHAdJAbHAdNYAdTTAbHAeDDAbHAeNNAdTAbHAdD",
  "AbHAdNA@a2a@cPAbHAdBAbHAdMAcYAcRA@a32@cLAbLA@a35@dVAcSHA@a38@cAcHA@a3c@jSIGN NUKTA@a3e@kVOWEL.",
  " AAcIaIcUaU@a47@cEEcAI@a4b@cOOcAUnSIGN VIRAMA@a51@gUDAAT@a59@k!KHHAeGHHAeZAcRRA@a5e@dFA@a66@jD",
  "IGIT ZEROeONEdTWOcHREEfFOURdIVEeSIXcEVENfEIGHTfNINEkTIPPIfADDAKfIRIdURAdEK ONKARiSIGN YAKASHlA",
  "BBREVIATION.@a81@yJARATI. CANDRABINDUlANUSVARAiVISARGA@a85@m!AaAcIaIcUaUcVOCALIC RbLqVOWEL CAN",
  "DRA E@a8f@o!EbAIjVOWEL CANDRA O@a93@o!ObAUcKAbHAdGAbHAdNGAdCAbHAdJAbHAdNYAdTTAbHAeDDAbHAeNNAdT",
  "AbHAdDAbHAdNA@aaa@cPAbHAdBAbHAdMAcYAcRA@ab2@cLAbLA@ab5@dVAcSHAcSAcAcHA@abc@jSIGN NUKTAfAVAGRAH",
  "AnVOWEL. AAcIaIcUaUcVOCALIC RaRkCANDRA E@ac7@iEbAIcCANDRA O@acb@iObAUnSIGN VIRAMA@ad0@lOM@ae0@",
  "c!VOCALIC RRcLLrVOWEL. VOCALIC LaL@ae6@vDIGIT ZEROeONEdTWOcHREEfFOURdIVEeSIXcEVENfEIGHTfNINEkA",
  "BBREVIATION.rRUPEE.@af9@k!ZHAkSIGN SUKUNeHADDAgMADDAHgTHREE-DOT NUKTA+vCIRCLE NUKTA+sTWO-CIRCL",
  "E NUKTA+@b01@zlORIYA. CANDRABINDUlANUSVARAiVISARGA@b05@m!AaAcIaIcUaUcVOCALIC RbL@b0f@jEbAI@b13",
  "@cObAUcKAbHAdGAbHAdNGAdCAbHAdJAbHAdNYAdTTAbHAeDDAbHAeNNAdTAbHAdDAbHAdNA@b2a@cPAbHAdBAbHAdMAcYA",
  "cRA@b32@cLAbLA@b35@dVAcSHAcSAcAcHA@b3c@jSIGN NUKTAfAVAGRAHAnVOWEL. AAcIaIcUaUcVOCALIC RaR@b47@",
  "kEbAI@b4b@cObAUnSIGN VIRAMA@b55@gOVERLINEnAI LENGTH?nU LENGTH?@b5c@o!RRAcHA@b5f@dYYAdVOCALIC R",
  "RcLLrVOWEL. VOCALIC LaL@b66@vDIGIT ZEROeONEdTWOcHREEfFOURdIVEeSIXcEVENfEIGHTfNINEkISSHARg!WAjF",
  "RACTION ONE QUARTERhHALFiTHREE QUARTERSoONE SIXTEENTHjEIGHTHkTHREE SIXTEENTHS@b82@zgTAMIL. ANU",
  "SVARAiVISARGA@b85@m!AaAcIaIcUaU@b8e@cEaEcAI@b92@cOaOcAUcKA@b99@cNGAdCA@b9c@cJA@b9e@cNYAdTTA@ba",
  "3@dNNAdTA@ba8@cNAbNNAePA@bae@cMAcYAcRAbRAdLAbLAbLAeVAcSHAcSAcAcHA@bbe@jVOWEL. AAcIaIcUaU@bc6@c",
  "EaEcAI@bca@cOaOcAUnSIGN VIRAMA@bd0@lOM@bd7@cAU LENGTH?@be6@oDIGIT ZEROeONEdTWOcHREEfFOURdIVEeS",
  "IXcEVENfEIGHTfNINEkNUMBER TENdONE HUNDREDhTHOUSANDtDAY.iMONTH.kYEAR.jDEBIT.kCREDIT.lAS+.nRUPEE",
  ".kNUMBER.@c00@qELUGU. COMBINING CANDRABINDU+zbANDRABINDUlANUSVARAiVISARGAhCOMBINING ANUSVARA+z",
  "e!AaAcIaIcUaUcVOCALIC RbL@c0e@jEaEcAI@c12@cOaOcAUcKAbHAdGAbHAdNGAdCAbHAdJAbHAdNYAdTTAbHAeDDAbH",
  "AeNNAdTAbHAdDAbHAdNA@c2a@cPAbHAdBAbHAdMAcYAcRAbRAdLAbLAbLAeVAcSHAcSAcAcHA@c3c@jSIGN NUKTAfAVAG",
  "RAHAnVOWEL. AAcIaIcUaUcVOCALIC RaR@c46@kEaEcAI@c4a@cOaOcAUnSIGN VIRAMA@c55@lLENGTH?lAI LENGTH?",
  "@c58@o!TSAdDZAdRRRA@c5d@eNAKAARA POLLU@c60@nVOCALIC RRcLLrVOWEL. VOCALIC LaL@c66@vDIGIT ZEROeO",
  "NEdTWOcHREEfFOURdIVEeSIXcEVENfEIGHTfNINE@c77@kSIGN SIDDHAMmFRACTION DIGIT ZERO FOR ODD POWERS ",
  "OF FOURzcONE FOR ODD POWERS OF FOURzbTWO FOR ODD POWERS OF FOURzaHREE FOR ODD POWERS OF FOURzd",
  "ONE FOR EVEN POWERS OF FOURzcTWO FOR EVEN POWERS OF FOURzbHREE FOR EVEN POWERS OF FOURztSIGN T",
  "UUMUrKANNADA. SPACING CANDRABINDUtCANDRABINDUlANUSVARAiVISARGAhSIDDHAMm!AaAcIaIcUaUcVOCALIC Rb",
  "L@c8e@jEaEcAI@c92@cOaOcAUcKAbHAdGAbHAdNGAdCAbHAdJAbHAdNYAdTTAbHAeDDAbHAeNNAdTAbHAdDAbHAdNA@caa",
  "@cPAbHAdBAbHAdMAcYAcRAbRAdLAbLA@cb5@dVAcSHAcSAcAcHA@cbc@jSIGN NUKTAfAVAGRAHAnVOWEL. AAcIaIcUaU",
  "cVOCALIC RaR@cc6@kEaEcAI@cca@cOaOcAUnSIGN VIRAMA@cd5@lLENGTH?lAI LENGTH?@cdd@o!NAKAARA POLLUnF",
  "A@ce0@cVOCALIC RRcLLrVOWEL. VOCALIC LaL@ce6@vDIGIT ZEROeONEdTWOcHREEfFOURdIVEeSIXcEVENfEIGHTfN",
  "INE@cf1@kSIGN JIHVAMULIYAlUPADHMANIYA@d00@yMALAYALAM. COMBINING ANUSVARA+xANDRABINDUlANUSVARAi",
  "VISARGAm!VEDIC ANUSVARAoAaAcIaIcUaUcVOCALIC RbL@d0e@jEaEcAI@d12@cOaOcAUcKAbHAdGAbHAdNGAdCAbHAd",
  "JAbHAdNYAdTTAbHAeDDAbHAeNNAdTAbHAdDAbHAdNAbNNAePAbHAdBAbHAdMAcYAcRAbRAdLAbLAbLAeVAcSHAcSAcAcHA",
  "cTTTAlSIGN |BAR VIRAMAtCIRCULAR VIRAMApAVAGRAHAnVOWEL. AAcIaIcUaUcVOCALIC RaR@d46@kEaEcAI@d4a@",
  "cOaOcAUnSIGN VIRAMAl!DOT REPHpSIGN PARA@d54@j!CHILLU MbYbLLLrAU LENGTH?oFRACTION ONE ONE-HUNDR",
  "ED-AND-SIXTIETHyFORTIETHmTHREE EIGHTIETHSqONE TWENTIETHiENTHjTHREE TWENTIETHSqONE FIFTHs!ARCHA",
  "IC IIkVOCALIC RRcLLrVOWEL. VOCALIC LaL@d66@vDIGIT ZEROeONEdTWOcHREEfFOURdIVEeSIXcEVENfEIGHTfNI",
  "NEkNUMBER TENdONE HUNDREDhTHOUSANDtFRACTION ONE QUARTERhHALFiTHREE QUARTERSoONE SIXTEENTHjEIGH",
  "THkTHREE SIXTEENTHSzaDATE?j!CHILLU NNbbRRcLaLcK@d81@zaSINHALA. CANDRABINDUlANUSVARAYAkVISARGAY",
  "A@d85@o!AYANNAfAYANNAgEYANNAfEYANNAiIYANNAfIYANNAhUYANNAfUYANNAhIRUYANNAfUYANNAiLUYANNAfUYANNA",
  "jEYANNAfEYANNAhAIYANNAhOYANNAfOYANNAhAUYANNA@d9a@gLPAPRAANA KAYANNAsMAHAAPRAANA KAYANNAtALPAPR",
  "AANA GAYANNAsMAHAAPRAANA GAYANNAtKANTAJA NAASIKYAYAsSANYAKA GAYANNApALPAPRAANA CAYANNAsMAHAAPR",
  "AANA CAYANNAtALPAPRAANA JAYANNAsMAHAAPRAANA JAYANNAtTAALUJA NAASIKYAYAkSANYOOGA NAAKSIKYAYAzdS",
  "ANYAKA JAYANNApALPAPRAANA TTAYANNAtMAHAAPRAANA TTAYANNAuALPAPRAANA DDAYANNAtMAHAAPRAANA DDAYAN",
  "NAtUURDHAJA NAYANNArSANYAKA DDAYANNAqALPAPRAANA TAYANNAsMAHAAPRAANA TAYANNAtALPAPRAANA DAYANNA",
  "sMAHAAPRAANA DAYANNAtDANTAJA NAYANNA@db3@pSANYAKA DAYANNApALPAPRAANA PAYANNAsMAHAAPRAANA PAYAN",
  "NAtALPAPRAANA BAYANNAsMAHAAPRAANA BAYANNArYANNAhAMBA BAYANNAmYAYANNAhRAYANNA@dbd@hDANTAJA LAYA",
  "NNA@dc0@pVAYANNAhTAALUJA SAYANNApMUURDHAJA SAYANNArDANTAJA SAYANNApHAYANNAhMUURDHAJA LAYANNArF",
  "AYANNA@dca@oSIGN AL-LAKUNA@dcf@oVOWEL. AELA-PILLAkKETTI AEDA-PILLAqDIGA AEDA-PILLApKETTI IS-PI",
  "LLAoDIGA IS-PILLAnKETTI PAA-PILLA@dd6@pDIGA PAA-PILLA@dd8@oGAETTA-PILLAmKOMBUVAhDIGA KOMBUVAmK",
  "OMBU DEKAfVA HAA AELA-PILLAkDIGA AELA-PILLApGAYANUKITTAxGAYANUKITTA@de6@wLITH DIGIT ZEROeONEdT",
  "WOcHREEfFOURdIVEeSIXcEVENfEIGHTfNINE@df2@pVOWEL. DIGA GAETTA-PILLAkYANUKITTAzcPUNCTUATION KUND",
  "DALIYA@e01@zfTHAI CHARACTER KO KAIfHO KHAIcUATdWAIdONeRAKHANGlNGO NGUhCHO CHANcINGdANGjSO SOfC",
  "HO CHOEiYO YINGhDO CHADAiTO PATAKhHO THANeNANGMONTHOkPHUTHAOlNO NENgDO DEKgTO TAOfHO THUNGdAHA",
  "NeONGjNO NUfBO BAIMAIjPO PLAfHO PHUNGjFO FAfPHO PHANiFO FANgPHO SAMPHAOlMO MAfYO YAKgRO RUAfUc",
  "LO LINGgUcWO WAENhSO SALAeRUSIeSUAgHO HIPgLO CHULAiO ANGfHO NOKHUKjPAIYANNOIjSARA AgMAI HAN-AK",
  "ATmSARA AAbMcIaIcUEaEcaUhPHINTHU@e3f@qURRENCY ~BAHTtHARACTER SARA EbAEcObAI MAIMUANdALAIqLAKKH",
  "ANGYAOlMAIYAMOKfTAIKHUg EKcTHOcRIdCHATTAWAmTHANTHAKHATlNIKHAHITiYAMAKKANiFONGMANrDIGIT ZEROeON",
  "EdTWOcHREEfFOURdIVEeSIXcEVENfEIGHTfNINEkCHARACTER ANGKHANKHUkKHOMUT@e81@vLAO !KObHO SUNG@e84@e",
  "TAM@e86@hPALI GHAiNGOdCOcPALI CHAiSO TAM@e8c@gPALI JHAiNYOdPALI NYAdTTAbHAeDDAbHAeNNAiDOcTObHO",
  " SUNGeTAMhPALI DHAiNOcBOcPObHO SUNGiFO TAMgPHO TAMhFO SUNGhPALI BHAiMOcYOcLO LING@ea5@dOOT@ea7",
  "@hWOcSANSKRIT SHAcSAlO SUNGhHO SUNGhPALI LLAiObHO TAMnELLIPSISiVOWEL. AbMAI KANhAAbMcIaIcYaYcU",
  "aUnSIGN PALI VIRAMAqVOWEL. MAI KONsSEMIVOWEL. LOcNYO@ec0@sVOWEL. EaIcObAYbI@ec6@nKO LA@ec8@fTO",
  "NE MAI EKcTHOcIcCATAWApCANCELLATION?rNIGGAHITA@ed0@jDIGIT ZEROeONEdTWOcHREEfFOURdIVEeSIXcEVENf",
  "EIGHTfNINE@edc@kHO NOcMOf!KHMU GOcNYO@f00@tTIBETAN _OMlMARK GTER YIG MGO TRUNCATED Al-UM RNAM ",
  "BCAD MAmGTER TSHEG MAzfINITIAL YIG MGO MDUN MAxCLOSING YIG MGO SGAB MAwARET YIG MGO PHUR SHAD ",
  "MAzbYIG MGO TSHEG SHAD MAvSBRUL SHADkBSKUR YIG MGOmKA- SHOG YIG MGOrINTERSYLLABIC TSHEGtDELIMI",
  "TER TSHEG BSTARvSHADeNYIS SHADjTSHEG SHADkNYIS TSHEG SHADpRIN CHEN SPUNGS SHADtGYA GRAM SHADoC",
  "ARET -DZUD RTAGS ME LONG CANzeGTER TSHEGpLOGOTYPE. CHAD RTAGSkLHAG RTAGSyASTROLOGICAL. SGRA GC",
  "AN -CHAR RTAGSv-KHYUD PAjSDONG TSHUGSzfSIGN RDEL DKAR GCIGdNYISeSUMjNAG GCIGdNYISjDKAR RDEL NA",
  "GxDIGIT ZEROeONEdTWOcHREEfFOURdIVEeSIXcEVENfEIGHTfNINEeHALF ONEdTWOcHREEfFOURdIVEeSIXcEVENfEIG",
  "HTfNINEeZEROpMARK BSDUS RTAGSlNGAS BZUNG NYI ZLAsCARET -DZUD RTAGS BZHI MIG CANzfNGAS BZUNG SG",
  "OR RTAGSvCHE MGOhTSA -PHRUjGUG RTAGS GYONcASoANG KHANG GYONcAStSIGN YAR TSHESjMAR TSHESo!KAbHA",
  "dGAbHAdNGAdCAbHAdJA@f49@cNYAdTTAbHAeDDAbHAeNNAdTAbHAdDAbHAdNAcPAbHAdBAbHAdMAcTSAbHAeDZAbHAeWAc",
  "ZHAcAc-AcYAcRAcLAcSHAcSAcAcHAcAbKSSAeFIXED-FORM RAnKKAdRRA@f71@kVOWEL. AAcIaIcUaUcVOCALIC RaRc",
  "LaLkEaEcOaOnSIGN RJES SU NGA ROnNAM BCADoVOWEL. REVERSED IaIwSIGN NYI ZLA NAA DAoSNA LDANnMARK",
  " HALANTAhPALUTAlSIGN LCI RTAGSjYANG RTAGSkLCE TSA CANlMCHU CANiGRU CAN RGYINGSlMED RGYINGSpINV",
  "ERTED MCHU CANvUBJOINED. LCE TSA CANlMCHU CANiINVERTED MCHU CANw!KAbHAdGAbHAdNGAdCAbHAdJA@f99@",
  "cNYAdTTAbHAeDDAbHAeNNAdTAbHAdDAbHAdNAcPAbHAdBAbHAdMAcTSAbHAeDZAbHAeWAcZHAcAc-AcYAcRAcLAcSHAcSA",
  "cAcHAcAbKSSAeFIXED-FORM WAcYAcRA@fbe@zfKU RU KHAa BZHI MIG CANwCANTILLATION. HEAVY BEATkLIGHT ",
  "BEATkCANG TE-UjSBUB -CHALzd~DRIL BUhRDO RJEhPADMA GDANkRDO RJE RGYA GRAMrPHUR PAhNOR BUa NYIS ",
  "-KHYILlGSUM -KHYILlBZHI -KHYIL@fce@yIGN RDEL NAG RDEL DKARjGSUMsMARK BSKA- SHOG GI MGO RGYANxM",
  "NYAM YIG GI MGO RGYANwNYIS TSHEGkINITIAL BRDA RNYING YIG MGO MDUN MAzkCLOSING BRDA RNYING YIG ",
  "MGO SGAB MAzxRIGHT-FACING SVASTI.yLEFT-FACING SVASTI.xRIGHT-FACING SVASTI.#DOTSzjLEFT-FACING S",
  "VASTI.#DOTSziTIBETAN? LEADING MCHAN RTAGStTRAILING MCHAN RTAGS"]

end ProposalCheck.Text.CharacterName
