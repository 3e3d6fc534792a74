/-!
# Names in further scripts

The names of the characters from `U+1000` to `U+1FFF`, those with computed names aside, in the short
form that `CharacterName.search` reads (Unicode 14).
-/

namespace ProposalCheck.Text.CharacterName

/-- The names in the scripts of Asia, Africa and America, and of further Latin and Greek letters. -/
def scriptNames : List String := [
  "@1000@aMYANMAR !KAbHAdGAbHAdNGAdCAbHAdJAbHAdNYAcNYAeTTAbHAeDDAbHAeNNAdTAbHAdDAbHAdNAcPAbHAdBAb",
  "HAdMAcYAcRAcLAcWAcSAcHAcLLAdAbSHAN AgIaIcUaUcEbMON EfObAUjVOWEL. TALL AAhAAcIaIcUaUcEbAIcMON I",
  "IcOfE+sSIGN ANUSVARAiDOT,jVISARGAfRAMAgASATjCONSONANT. MEDIAL YAcRAcWAcHAy!GREAT SApDIGIT ZERO",
  "eONEdTWOcHREEfFOURdIVEeSIXcEVENfEIGHTfNINEkSIGN LITTLE SECTIONoSECTIONlYMBOL LOCATIVEiCOMPLETE",
  "DjAFOREMENTIONEDoGENITIVEp!SHAcSAdVOCALIC RaRcLaLrVOWEL. VOCALIC RaRcLaLv!MON NGAdJHAdBBAbEoCO",
  "NSONANT. MON MEDIAL NAcMAcLAzd!SGAW KAREN SHAvVOWEL. SGAW KAREN EUyTONE? SGAW KAREN HATHIfKE P",
  "HOzc!WESTERN PWO KAREN THAdPWAzdVOWEL. WESTERN PWO KAREN EUcUEzgSIGN WESTERN PWO KAREN TONE-1b",
  "2b3b4b5ze!EASTERN PWO KAREN NNAdYWAdGHWAzeVOWEL. GEBA KAREN ImKAYAH OEcUbEEt!SHAN KAbHAdGAcCAc",
  "ZAcNYAdDAcNAcPHAdFAcBAcTHAdHAoCONSONANT. SHAN MEDIAL WAzeVOWEL. SHAN AAcEa+hFINAL YxSIGN SHAN ",
  "TONE-2b3b5b6gCOUNCIL TONE-2b3gEMPHATIC TONEzg!RUMAI PALAUNG FAxSIGN RUMAI PALAUNG TONE-5yHAN D",
  "IGIT ZEROeONEdTWOcHREEfFOURdIVEeSIXcEVENfEIGHTfNINEoIGN KHAMTI TONE-1b3sVOWEL. AITON AaIt~SHAN",
  " ONEdEXCLAMATIONzgGEORGIAN $!ANcBANdGANdDONdENcVINdZENdTANdINcKANdLASdMANdNARdONcPARdZHAReRAEd",
  "SANdTARdUNcPHAReKHAReGHANeQARdSHINeCHINdANdJILdCILcHAReXANdJHANeHAEcEbIEdWEcHARcOE@10c7@dYN@10",
  "cd@cAEN@10d0@s!ANcBANdGANdDONdENcVINdZENdTANdINcKANdLASdMANdNARdONcPARdZHAReRAEdSANdTARdUNcPHA",
  "ReKHAReGHANeQARdSHINeCHINdANdJILdCILcHAReXANdJHANeHAEcEbIEdWEcHARcOEdFIcYNcELIFIfTURNED GANkAI",
  "NkPARAGRAPH SEPARATORzdMODIFIER !GEORGIAN NARzdGEORGIAN !AENdHARD.jLABIAL.zcHANGUL CHOSEONG KI",
  "YEOKgSSANGKIYEOKlNIEUNfTIKEUTgSSANGTIKEUTlRIEULfMIEUMfPIEUPfSSANGPIEUPjIOSdSANGSIOSjIEUNGfCIEU",
  "CfSSANGCIEUCkCHIEUCHhKHIEUKHhTHIEUTHhPHIEUPHhHIEUHfNIEUN-KIYEOKmSSANGNIEUNkNIEUN-TIKEUTgPIEUPl",
  "TIKEUT-KIYEOKnRIEUL-NIEUNlSSANGRIEULkRIEUL-HIEUHlKAPYEOUNRIEULnMIEUM-PIEUPlKAPYEOUNMIEUMnPIEUP",
  "-KIYEOKgNIEUNfTIKEUTgSIOSa-KIYEOKgTIKEUTgPIEUPjSANGSIOSiIOS-CIEUCkCIEUCeHIEUCHhTHIEUTHhPHIEUPH",
  "nKAPYEOUNPIEUPfSSANGPIEUPsSIOS-KIYEOKgNIEUNfTIKEUTgRIEULfMIEUMfPIEUPa-KIYEOKmSSANGSIOSjIEUNGfC",
  "IEUCeHIEUCHhKHIEUKHhTHIEUTHhPHIEUPHhHIEUHkCHITUEUMSIOSdSANGSIOSqEONGCHIEUMSIOSdSANGSIOSuPANSIO",
  "ShIEUNG-KIYEOKgTIKEUTgMIEUMfPIEUPfSIOSePANSIOSnSSANGIEUNGkIEUNG-CIEUCeHIEUCHhTHIEUTHhPHIEUPHnY",
  "ESIEUNGiCIEUC-IEUNGkHITUEUMCIEUCfSSANGCIEUCrEONGCHIEUMCIEUCfSSANGCIEUCuHIEUCH-KHIEUKHhHIEUHkTU",
  "EUMCHIEUCHoEONGCHIEUMCHIEUCHsPHIEUPH-PIEUPnKAPYEOUNPHIEUPHpSSANGHIEUHkYEORINHIEUHlKIYEOK-TIKEU",
  "TnNIEUN-SIOSeCIEUCfHIEUHlTIKEUT-RIEULmFILLERpJUNGSEONG FILLERgAaEcYAaEdEObbYEObcObWAaEdOEcYOcU",
  "bWEObbIcYUcEUcYIcIbA-ObUdYA-ObYOfEO-ObUbEUfYEO-ObUfO-EObbYEcObUdYO-YAaEcEOdObIeU-AaEcEO-EUfYEc",
  "UdYU-AbEObbYEObcUbIeEU-UbEUfYI-UeI-AbYAcObUbEUcARAEAhARAEAa-EOcUbIhSSANGARAEAkA-EUeYA-UdEO-YAg",
  "O-YAaEoONGSEONG KIYEOKgSSANGKIYEOKlKIYEOK-SIOSlNIEUNa-CIEUCfHIEUHlTIKEUTgRIEULa-KIYEOKgMIEUMfP",
  "IEUPfSIOSeTHIEUTHhPHIEUPHhHIEUHlMIEUMfPIEUPa-SIOSkSIOSdSANGSIOSjIEUNGfCIEUCeHIEUCHhKHIEUKHhTHI",
  "EUTHhPHIEUPHhHIEUHfKIYEOK-RIEULfSIOS-KIYEOKsNIEUN-KIYEOKgTIKEUTgSIOSePANSIOShTHIEUTHnTIKEUT-KI",
  "YEOKgRIEULmRIEUL-KIYEOK-SIOSlNIEUNfTIKEUTa-HIEUHsSSANGRIEULkRIEUL-MIEUM-KIYEOKgSIOSkPIEUP-SIOS",
  "eHIEUHlKAPYEOUNPIEUPnSSANGSIOSjPANSIOShKHIEUKHhYEORINHIEUHrMIEUM-KIYEOKgRIEULfPIEUPfSIOSdSANGS",
  "IOSjPANSIOShCHIEUCHhHIEUHlKAPYEOUNMIEUMnPIEUP-RIEULfPHIEUPHhHIEUHlKAPYEOUNPIEUPnSIOS-KIYEOKgTI",
  "KEUTgRIEULfPIEUPkPANSIOShIEUNG-KIYEOKgSSANGKIYEOKrSSANGIEUNGkIEUNG-KHIEUKHnYESIEUNGa-SIOSePANS",
  "IOSqPHIEUPH-PIEUPnKAPYEOUNPHIEUPHpHIEUH-NIEUNfRIEULfMIEUMfPIEUPlYEORINHIEUHlKIYEOK-NIEUNfPIEUP",
  "fCHIEUCHhKHIEUKHhHIEUHmSSANGNIEUNzcETHIOPIC _HAbUbIbAAcEEbbOaAdLAbUbIbAAcEEbbObWAdHHAbUbIbAAcE",
  "EbbObWAeMAbUbIbAAcEEbbObWAdSZAbUbIbAAcEEbbObWAeRAbUbIbAAcEEbbObWAdSAbUbIbAAcEEbbObWAcHAbUbIbAA",
  "cEEbbObWAeQAbUbIbAAcEEbbOaAcWA@124a@bIbAAcEEb@1250@cHAbUbIbAAcEEbbO@1258@bWA@125a@bIbAAcEEb@12",
  "60@eBAbUbIbAAcEEbbObWAdVAbUbIbAAcEEbbObWAdTAbUbIbAAcEEbbObWAdCAbUbIbAAcEEbbObWAdXAbUbIbAAcEEbb",
  "OaAcWA@128a@bIbAAcEEb@1290@dNAbUbIbAAcEEbbObWAcYAbUbIbAAcEEbbObWAeGLOTTAL AbUbIbAAcEEbbObWAkKA",
  "bUbIbAAcEEbbOaAcWA@12b2@bIbAAcEEb@12b8@cXAbUbIbAAcEEbbO@12c0@bWA@12c2@bIbAAcEEb@12c8@eWAbUbIbA",
  "AcEEbbOaAdPHARYNGEAL AbUbIbAAcEEbbO@12d8@mZAbUbIbAAcEEbbObWAcHAbUbIbAAcEEbbObWAeYAbUbIbAAcEEbb",
  "OaAdDAbUbIbAAcEEbbObWAcDAbUbIbAAcEEbbObWAeJAbUbIbAAcEEbbObWAdGAbUbIbAAcEEbbOaAcWA@1312@bIbAAcE",
  "Eb@1318@cGAbUbIbAAcEEbbObWAAfTHAbUbIbAAcEEbbObWAeCHAbUbIbAAcEEbbObWAePHAbUbIbAAcEEbbObWAeTSAbU",
  "bIbAAcEEbbObWAdZAbUbIbAAcEEbbOaAeFAbUbIbAAcEEbbObWAdPAbUbIbAAcEEbbObWAdRYAdMYAdFYA@135d@mCOMBI",
  "NING GEMINATION&VOWEL LENGTH?zhVOWEL LENGTH?rGEMINATION?zaSECTION?mWORDSPACEjFULL STOPjCOMMAfS",
  "EMICOLONjCOLONfPREFACE COLONnQUESTION?nPARAGRAPH SEPARATORtDIGIT ONEdTWOcHREEfFOURdIVEeSIXcEVE",
  "NfEIGHTfNINEkNUMBER TENcWENTYfHIRTYgFORTYeIFTYfSIXTYeEVENTYhEIGHTYgNINETYgHUNDREDhTEN THOUSAND",
  "@1380@t_SEBATBEIT MWAnMWIbEEbdSEBATBEIT BWAnBWIbEEbdSEBATBEIT FWAnFWIbEEbdSEBATBEIT PWAnPWIbEE",
  "bmTONAL? YIZETfDERETfRIKRIKgSHORT RIKRIKmDIFATfKENATfCHIRETgHIDETfDERET-HIDETlKURT@13a0@yCHERO",
  "KEE !AbEbIbObUbVbGAcKAcGEbIbObUbVcHAbEbIbObUbVcLAbEbIbObUbVcMAbEbIbObUcNAcHNAdNAHcEbIbObUbVcQU",
  "AbEbIbObUbVdSAbaEbIbObUbVcDAcTAcDEcTEcDIcTIcDObUbVbLAdTLAbEbIbObUbVcSAbEbIbObUbVdWAbEbIbObUbVc",
  "YAbEbIbObUbVcMV@13f8@j%!YEbIbObUbVcMV@1400@xANADIAN SYLLABICS HYPHENgEbAAIdIaIcOaOcY-CREE OOjC",
  "ARRIER EEcIjAaAcWEaST-CREE WElIbEST-CREE WIlIIcEST-CREE WIImObEST-CREE WOlOOcEST-CREE WOOnNASK",
  "API WOOlWAbEST-CREE WAlAAcEST-CREE WAAnNASKAPI WAAlAIcY-CREE WiGLOTTAL STOPmFINAL ACUTEfGRAVEf",
  "BOTTOM HALF RINGqTOP HALF RINGn]HALF RINGnNGe:ACUTEfSHORT |STROKESzeMIDDLE DOTkSHORT (STROKExP",
  "LUSeDOWN TACKpENcINcONcANcPEbAAIdIaIcOaOdY-CREE POOkCARRIER HEEcIkPAaAcWEdWEST-CREE PWEnPWIdWE",
  "ST-CREE PWInPWIIeWEST-CREE PWIIoPWOdWEST-CREE PWOnPWOOeWEST-CREE PWOOoPWAdWEST-CREE PWAnPWAAeW",
  "EST-CREE PWAAoY-CREE PWAAlPbWEST-CREE PlCARRIER HjTEbAAIdIaIcOaOdY-CREE TOOkCARRIER DEEcIkTAaA",
  "cWEdWEST-CREE TWEnTWIdWEST-CREE TWInTWIIeWEST-CREE TWIIoTWOdWEST-CREE TWOnTWOOeWEST-CREE TWOOo",
  "TWAdWEST-CREE TWAnTWAAeWEST-CREE TWAAoNASKAPI TWAAmTaTEbIbObAdKEbAAIdIaIcOaOdY-CREE KOOkKAaAcW",
  "EdWEST-CREE KWEnKWIdWEST-CREE KWInKWIIeWEST-CREE KWIIoKWOdWEST-CREE KWOnKWOOeWEST-CREE KWOOoKW",
  "AdWEST-CREE KWAnKWAAeWEST-CREE KWAAoNASKAPI KWAAmKaWcSOUTH-SLAVEY KEHcIHcOHcAHqCEbAAIdIaIcOaOd",
  "Y-CREE COOkCAaAcWEdWEST-CREE CWEnCWIdWEST-CREE CWInCWIIeWEST-CREE CWIIoCWOdWEST-CREE CWOnCWOOe",
  "WEST-CREE CWOOoCWAdWEST-CREE CWAnCWAAeWEST-CREE CWAAoNASKAPI CWAAmCbSAYISI THjMEbAAIdIaIcOaOdY",
  "-CREE MOOkMAaAcWEdWEST-CREE MWEnMWIdWEST-CREE MWInMWIIeWEST-CREE MWIIoMWOdWEST-CREE MWOnMWOOeW",
  "EST-CREE MWOOoMWAdWEST-CREE MWAnMWAAeWEST-CREE MWAAoNASKAPI MWAAmMbWEST-CREE MlMHcATHAPASCAN M",
  "mSAYISI MiNEbAAIdIaIcOaOdY-CREE NOOkNAaAcWEdWEST-CREE NWEnNWAdWEST-CREE NWAnNWAAeWEST-CREE NWA",
  "AoNASKAPI NWAAlbCARRIER NGkNHcLEbAAIdIaIcOaOdY-CREE LOOkLAaAcWEdWEST-CREE LWEnLWIdWEST-CREE LW",
  "InLWIIeWEST-CREE LWIIoLWOdWEST-CREE LWOnLWOOeWEST-CREE LWOOoLWAdWEST-CREE LWAnLWAAeWEST-CREE L",
  "WAAoLbWEST-CREE LlMEDIAL LiSEbAAIdIaIcOaOdY-CREE SOOkSAaAcWEdWEST-CREE SWEnSWIdWEST-CREE SWInS",
  "WIIeWEST-CREE SWIIoSWOdWEST-CREE SWOnSWOOeWEST-CREE SWOOoSWAdWEST-CREE SWAnSWAAeWEST-CREE SWAA",
  "oNASKAPI SWAAmSbATHAPASCAN SmSWcBLACKFOOT SlMOOSE-CREE SKnNASKAPI SKWc-WcPWAdTWAdKWAdCWAmSHEbI",
  "aIcOaOcAaAcWEeWEST-CREE SHWEoSHWIeWEST-CREE SHWIoSHWIIfWEST-CREE SHWIIpSHWOeWEST-CREE SHWOoSHW",
  "OOfWEST-CREE SHWOOpSHWAeWEST-CREE SHWAoSHWAAfWEST-CREE SHWAApSHcYEbAAIdIaIcOaOc-CREE YOOjAaAcW",
  "EdWEST-CREE YWEnYWIdWEST-CREE YWInYWIIeWEST-CREE YWIIoYWOdWEST-CREE YWOnYWOOeWEST-CREE YWOOoYW",
  "AdWEST-CREE YWAnYWAAeWEST-CREE YWAAoNASKAPI YWAAmYbBIBLE-CREE YmWEST-CREE YlSAYISI YIjREb-CREE",
  " REjWEST-CREE LEmRAAIdIaIcOaOdWEST-CREE LOmRAaAdWEST-CREE LAmRWAAeWEST-CREE RWAAoRbWEST-CREE R",
  "lMEDIAL RiFEbAAIdIaIcOaOcAaAcWAAeWEST-CREE FWAAoFbTHEdN-CREE THEkTHIdN-CREE THIkTHIIeN-CREE TH",
  "IIlTHOaOcAaAcWAAfWEST-CREE THWAApTHbTHEbIbObAbcYEbIbObAdNUNAVIK HEbIaIcOaOcAaAceUT HjHKcQAAIdI",
  "aIcOaOcAaAcbTLHEbIbObAeWEST-CREE REbIbObAmNGAAIdIaIcOaOcAaAcbNGdSAYISI SHEbIbObAkWOODS-CREE TH",
  "EbIbObAbnLHIaIcOaOcAaAccTH-CREE THEbIaIcOaOcAaAckAIVILIK BjBLACKFOOT EbIbObAbWEbIbObAcNEbIbObA",
  "cKEbIbObAmSAYISI HEbIbObAjCARRIER GHUbObEaEcIbAdRUbObEaEcIbAcWUbObEaEcIbAcHWUbObEaEcIbAdTHUbOb",
  "EaEcIbAcTUbObEaEcIbAdPUbObEaEcIbAbbGUbObEaEcIbAcKHUbObEaEcIbAcKUbObEaEcIbAbcNUbObEaEcIbAcMUbOb",
  "EaEcIbAcYUbObEaEcIbAcJUkSAYISI JUjCARRIER JObEaEcIkSAYISI JIjCARRIER JAbJUbObEaEcIbAdLUbObEaEc",
  "IbAcDLUbObEaEcIbAdLHUbObEaEcIbAdTLHUbObEaEcIbAcUbObEaEcIbAdZUbObEaEcIbAbbINITIAL ZjDZUbObEaEcI",
  "bAdSUbObEaEcIbAbHUbObEaEcIbAbcTSUbObEaEcIbAdCHUbObEaEcIbAdTTSUbObEaEcIbAlHI.iFULL STOPjQAIdNGA",
  "IdNGIaIcOaOcAaAfWOODS-CREE THWEEcIaIcOaOcAaAfFINAL THtBLACKFOOT WzfOGHAM SPACE?k!BEITHfLUISeFE",
  "ARNfSAILeNIONeUATHeDAIReTINNEfCOLLdEIRTfMUINeGORTeNGEADALhSTRAIFgRUISeAILMeONNdURcEADHADHhIODH",
  "ADHhEABHADHhORcUILLEANNiIFINeEAMHANCHOLLlPEITHmFEATHER?mREVERSED FEATHER?@16a0@zcRUNIC !FEHU F",
  "EOH FE FoVbURUZ UR UjYRbbWbTHURISAZ THURS THORNuETHdANSUZ AhOS OeAC AdESCeLONG-BRANCH-OSS OrSH",
  "ORT-TWIG-OSS OqOaEbNcRAIDO RAD REID RqKAUNAfCENdKAUN KgGbENGdGEBO GYFU GkARdWUNJO WYNN WmHAGLA",
  "Z HgEGL HhLONG-BRANCH-HAGALL HuSHORT-TWIG-HAGALL HtNAUDIZ NYD NAUD NrSHORT-TWIG-NAUD NrDOTTED-",
  "NiISAZ IS ISS InEbJERAN JhGERdLONG-BRANCH-AR AErSHORT-TWIG-AR ApIWAZ EOHiPERTHO PEORTH PpALGIZ",
  " EOLHXlSOWILO ShIGEL LONG-BRANCH-SOL SwHORT-TWIG-SOL SqCbZbTIWAZ TIR TYR TpSHORT-TWIG-TYR TqDb",
  "BERKANAN BEORC BJARKAN BySHORT-TWIG-BJARKAN BuDOTTED-PiOPEN-PgEHWAZ EH EkMANNAZ MAN MmLONG-BRA",
  "NCH-MADR MsSHORT-TWIG-MADR MrLAUKAZ LAGU LOGR LsDOTTED-LiINGWAZddDAGAZ DAEG DmOTHALAN ETHEL Op",
  "EARdIORdCWEORTHgALCdEALCfSTANeLONG-BRANCH-YRoSHORT-TWIG-YRnICELANDIC-YRmQbXiSINGLE PUNCTUATION",
  "sMULTIPLE PUNCTUATIONuCROSS PUNCTUATIONrARLAUG SYMBOLnTVIMADUR SYMBOLpBELGTHOR SYMBOLp!KbSHcOO",
  "cFRANKS CASKET OScIScEHcACbESC@1700@zgTAGALOG !AbIbUbKAcGAcNGAdTAcDAcNAcPAcBAcMAcYAcRAcLAcWAcS",
  "AcHAjVOWEL. IbUmSIGN VIRAMAgPAMUDPOD@171f@n!ARCHAIC RAzaHANUNOO !AbIbUbKAcGAcNGAdTAcDAcNAcPAcB",
  "AcMAcYAcRAcLAcWAcSAcHAjVOWEL. IbUmSIGN PAMUDPODvPHILIPPINE SINGLE PUNCTUATIONs:PUNCTUATION@174",
  "0@zeBUHID !AbIbUbKAcGAcNGAdTAcDAcNAcPAcBAcMAcYAcRAcLAcWAcSAcHAjVOWEL. IbU@1760@sTAGBANWA !AbIb",
  "UbKAcGAcNGAdTAcDAcNAcPAcBAcMAcYA@176e@cLAcWAcSA@1772@jVOWEL. IbU@1780@vKHMER !KAbHAcObHOdNGOdC",
  "AbHAcObHOdNYOdDAcTTHAeDOcTTHOeNNOdTAbHAcObHOdNOcBAcPHAcObHOdMOcYOcROcLOcVOcSHAcSOcAcHAcLAcQAjI",
  "NDEPENDENT VOWEL QAQbAcIaIcUaKbUaVeRYaYdLYaYdQEbAIcOO TYPE ONEdTWOlAUvVOWEL INHERENT AQbAlSIGN",
  " AAcIaIcYaYcUaUbAcOEcYAcIEcEbAEbIcOOcAUnSIGN NIKAHIThREAHMUKhYUUKALEAPINTUnMUUSIKATOANlTRIISAP",
  "hBANTOCgROBATfTOANDAKHIATlKAKABAThAHSDAfSAMYOK SANNYAnVIRIAMgCOENGfBATHAMASATkKHANeBARIYOOSANk",
  "CAMNUC PII KUUHpLEK TOOhBEYYALgPHNAEK MUANlKOOMUUTmCURRENCY ~RIELuSIGN AVAKRAHASANYAmTTHACAN@1",
  "7e0@nDIGIT ZEROeONEdTWOcHREEfFOURdIVEeSIXcEVENfEIGHTfNINE@17f0@k~LEK ATTAK SONdMUOYePIIdBEIcUO",
  "NePRAMa-MUOYePIIdBEIcUON@1800@zhMONGOLIAN BIRGAfELLIPSISiCOMMAfFULL STOPjCOLONfFOUR DOTSjTODO ",
  "SOFT HYPHENqSIBE _BOUNDARY?ERzeMANCHU COMMAfFULL STOPqNIRUGUgFREE VARIATION SELECTOR ONEdTWOcH",
  "REEzeVOWEL SEPARATORpFREE VARIATION SELECTOR FOURzdDIGIT ZEROeONEdTWOcHREEfFOURdIVEeSIXcEVENfE",
  "IGHTfNINE@1820@k!AbEbIbObUbOEcUEcEEcNAcANGdBAcPAcQAcGAcMAcLAcSAbHAdTAcDAcCHAdJAcYAcRAcWAcFAcKA",
  "bHAdTSAdZAcHAAdZRAdLHAdZHIdCHIdTODO LONG VOWEL.pEbIbObUbOEcUEcANGdBAcPAcQAcGAcMAcTAcDAcCHAdJAc",
  "TSAdYAcWAcKAcGAAdHAAdJIAdNIAdDZAiSIBE EbIaYcUEbbANGdKAcGAcHAcPAcSHAdTAcDAcJAcFAcGAAdHAAdTSAdZA",
  "cRAAdCHAdZHAiMANCHU IbKAcRAcFAcZHAkCHA#TWO DOTS@1880@rALI GALI ANUSVARA ONEmVISARGA ONElDAMARU",
  "gUBADAMAhINVERTED UBADAMAqBALUDAgTHREE BALUDAmAbIbKAcNGAdCAcTTAbHAeDDAdNNAdTAcDAcPAbHAdSSAdZHA",
  "cAcAHlTODO ALI GALI TAcZHArMANCHU ALI GALI GHAdNGAdCAcJHAdTTAdDDHAeTAcDHAdSSAdCYAdZHAcAsALI GA",
  "LI HALF UbYAqMANCHU ALI GALI BHAtALI GALI DAGALGAqMANCHU ALI GALI LHA@18b0@zlCANADIAN SYLLABIC",
  "S OYcAYbAYdWAYdPOYcAYcWOYeTAYdKAYcWAYeMAYdNOYcAYdLAYdSOYcAYcHOYcAYcWOYfYOYcAYdRAYdNWIdOJIBWAY ",
  "NWIlNWIIeOJIBWAY NWIImNWOdOJIBWAY NWOlNWOOeOJIBWAY NWOOmRWEEcIaIcOaOcAdOJIBWAY PbTbKbCbMbNbSaH",
  "kEASTERN WjWESTERN WjFINAL %RINGkRAISED DOTqR-CREE RWEkWEST-CREE LOOcAAnTHWEbAdTHWEcOOcAAeLHWE",
  "cOOfSAYISI SHWEcOOeHOOkCARRIER GWUdDENE GEEiGAAcWAlSAYISI JUUkCARRIER JWAlBEAVER DENE LbRnCARR",
  "IER DENTAL S@1900@zkLIMBU VOWEL-CARRIER LETTERu!KAbHAdGAbHAdNGAdCAbHAdJAbHAdYANdTAbHAdDAbHAdNA",
  "cPAbHAdBAbHAdMAcYAcRAcLAcWAcSHAcSAcAcHAcGYANeTRA@1920@kVOWEL. AbIbUbEEcAIcOOcAUcEbOmSUBJOINED ",
  "!YAcRAcWA@1930@sMALL !KAcNGAdANUSVARAiTAcNAcPAcMAcRAcLAoIGN MUKPHRENGjKEMPHRENGjSA-I@1940@eLOO",
  "@1944@iEXCLAMATION?qQUESTION?nDIGIT ZEROeONEdTWOcHREEfFOURdIVEeSIXcEVENfEIGHTfNINEqTAI LE !KAc",
  "XAcNGAdTSAdSAcYAcTAbHAdLAcPAbHAdMAcFAcVAcHAcQAcKHAdTSHAeNAcAbIbEEbHcUbOObbUEcEbAUEcI@1970@cTON",
  "E-2b3b4b5b6@1980@uNEW TAI LUE !HIGH QAhLOW QAgHIGH KAcXAcNGAiLOW KAcXAcNGAhHIGH TSAdSAcYAhLOW ",
  "TSAdSAcYAgHIGH TAbHAdNAhLOW TAbHAdNAgHIGH PAbHAdMAhLOW PAbHAdMAgHIGH FAcVAcLAhLOW FAcVAcLAgHIG",
  "H HAcDAcBAhLOW HAcDAcBAgHIGH KVAdXVAiLOW KVAdXVAhHIGH SUAiLOW SUA@19b0@oVOWEL. VOWEL SHORTENER",
  "pAAcIIcUaUcEbAEcOaAcUEcAYbAYdUYcOYbAYdUEYdIYn!FINAL VbNGbbMbKbDbBoTONE?-1b2@19d0@lDIGIT ZEROeO",
  "NEdTWOcHREEfFOURdIVEeSIXcEVENfEIGHTfNINEkTHAM DIGIT ONE@19de@oSIGN LAEaVvKHMER ~PATHAMASATkMUO",
  "Y KOETjPII KOETiBEI KOEThUON KOETjPRAM KOETf-MUOY KOETjPII KOETiBEI KOEThUON KOEToDAP KOETf-MU",
  "OY KOETjPII KOETiBEI KOEThUON KOETjPRAM KOETnTUTEYASATjMUOY ROCiPII ROChBEI ROCgUON ROCiPRAM R",
  "OCe-MUOY ROCiPII ROChBEI ROCgUON ROCnDAP ROCe-MUOY ROCiPII ROChBEI ROCgUON ROCiPRAM ROCzaBUGIN",
  "ESE !KAcGAcNGAbKAePAcBAcMAbPAdTAcDAcNAbRAdCAcJAcNYAbCAeYAcRAcLAcVAcSAcAbHAjVOWEL. IbUbEbObAE@1",
  "a1e@nPALLAWAhEND OF SECTIONxTAI THAM !HIGH KAbHAcXAiLOW KAbXAcHAhNGAdHIGH CAbHAiLOW CAcSAcCHAh",
  "NYAdRATAeHIGH RATHAkDAcLOW RATHAjRANAeHIGH TAbHAiLOW TAbHAhNAcBAcHIGH PAbHAdFAhLOW PAcFAcPHAhM",
  "AcLOW YAgHIGH YAhRAbUEdLAbUEdWAcHIGH SHAcSAcAcHAhLLAdAbLOW HAgIaIcUaUcEEcOOcLAEdGREAT SApCONSO",
  "NANT. MEDIAL RAcLAjLA TANG LAIzbSIGN MAI KANG LAIrCONSONANT. FINAL NGAjLOW PAgHIGH RATHA OR LO",
  "W PAuMAcBAcSA@1a60@rSIGN SAKOTkVOWEL. AbMAI SAThAAcTALL AAhIaIcUEbUEcaUcOaA,hYcEbAEcOOcAIcTHAM",
  " AIhOA+tSIGN MAI KANGiTONE-1b2gKHUEN TONE-3b4b5mRA HAAMhMAI SAMhKHUEN-LUE KARAN@1a7f@uCOMBININ",
  "G CRYPTOGRAMMIC DOTzcHORA DIGIT ZEROeONEdTWOcHREEfFOURdIVEeSIXcEVENfEIGHTfNINE@1a90@pTHAM DIGI",
  "T ZEROeONEdTWOcHREEfFOURdIVEeSIXcEVENfEIGHTfNINE@1aa0@pSIGN WIANGaWAAKjSAWANfKEOWeHOYdDOKMAIgR",
  "EVERSED ROTATED RANAvMAI YAMOKjKAANaKUUhSATKAANaKUUkHANGeCAANG@1ab0@tCOMBINING DOUBLED CIRCUMF",
  "LEX ACCENTyIAERESIS-RINGoINFINITYiDOWNWARDS ^pTRIPLE DOTkX-X,jWIGGLY LINE,rOPEN?,p:OPEN?,wLIGH",
  "T CENTRALIZATION STROKE,ziSTRONG CENTRALIZATION STROKE,zjPARENTHESES+r:PARENTHESES+yPARENTHESE",
  "S,fOVERLAYtLATIN %!W,hTURNED W,zhEFT PARENTHESIS+ LEFTzc]PARENTHESIS+ RIGHTze[PARENTHESIS, LEF",
  "Tzc]PARENTHESIS, RIGHTzeSQUARE BRACKETS+vNUMBER.+rINVERTED :ARCH+zbPLUS.+p:PLUS.+fBELOWwTRIPLE",
  " ACUTE ACCENTtLATIN %!INSULAR GbRbT@1b00@znBALINESE. ULU RICEMfCANDRAkCECEKfSURANGgBISAHk!AKAR",
  "Aa TEDUNGmIKARAa TEDUNGmUKARAa TEDUNGmRA REPAa TEDUNGoLA LENGAa TEDUNGpEKARAfAIKARAgOKARAa TED",
  "UNGmKAa MAHAPRANAmGAa GORAhNGAdCAa LACAhJAa JERAhNYAdTA LATIKfMURDA MAHAPRANAsDA MURDA ALPAPRA",
  "NAjMAHAPRANAsNA RAMBATjTAa TAWAhDAa MADUhNAcPAa KAPALiBAa KEMBANGkMAcYAcRAcLAcWAcSA SAGAcPAfcH",
  "AjSIGN REREKANmVOWEL. TEDUNGgULUa SARIiSUKUa ILUTjRA REPAa TEDUNGoLA LENGAa TEDUNGpTALINGa REP",
  "AeTEDUNGgREPA TEDUNGsPEPETa TEDUNGxADEG ADEGj!KAF SASAKiHOT SASAKkTZIR SASAKkEF SASAKiVE SASAK",
  "iZAL SASAKjASYURA SASAKlRCHAIC JNYA@1b50@tDIGIT ZEROeONEdTWOcHREEfFOURdIVEeSIXcEVENfEIGHTfNINE",
  "kPANTIdMADAgWINDUfCARIK PAMUNGKAHjSIKIePARERENnPAMENENGiMUSICAL ~DONGdENGdUNGdANGa SURANGkINGd",
  "AENGeEUNGeAINGdNG GEDEjCOMBINING TEGEHfENDEPfKEMPULcLIgJEGOGANhKEMPUL#JEGOGANpLI#JEGOGANtBENDE",
  "fGONGoRIGHT-HAND OPEN DUGcAGiCLOSED TUKcAKvLEFT-HAND OPEN PANGdUNGjCLOSED PLAKcUKlOPEN PINGzjP",
  "ANTI LANTANGlMADA LANTANG@1b80@xSUNDANESE. PANYECEKfGLAYARfWISADo!AbIbUbAEcObEaUcKAcQAcGAcNGAd",
  "CAcJAcZAcNYAdTAcDAcNAcPAcFAcVAcBAcMAcYAcRAcLAcWAcSAcXAcHAjCONSONANT. PAMINGKALhNYAKRAeIKUwVOWE",
  "L. PANGHULUfYUKUeAELAENGhOLONGgMEPETfNEULEUNGvSIGN PAMAAEHhVIRAMAlCONSONANT. PASANGAN MAcWAzb!",
  "KHAdSYAkDIGIT ZEROeONEdTWOcHREEfFOURdIVEeSIXcEVENfEIGHTfNINEkAVAGRAHAi!REUdLEUdBHAdFINAL KbMyB",
  "ATAK !AbSIMALUNGUN AmHAcSIMALUNGUN HAnMANDAILING HAnBAcKARO BAhPAcSIMALUNGUN PAnNAcMANDAILING ",
  "NAnWAcSIMALUNGUN WAnPAKPAK WAjGAcSIMALUNGUN GAnJAcDAcRAcSIMALUNGUN RAnMAcSIMALUNGUN MAmOUTHERN",
  " TAlNORTHERN TAlSAbIMALUNGUN SAnMANDAILING SAnYAcSIMALUNGUN YAnNGAdLAcSIMALUNGUN LAnNYAdCAcNDA",
  "dMBAdIbUiSIGN TOMPIkVOWEL. EbPAKPAK EiEEcIbKARO IgObKARO OgUa FOR SIMALUNGUN SAzfCONSONANT. NG",
  "cHqPANGOLATfONGONAN@1bfc@k~BINDU NA METEKiPINARBORASkJUDULfPANGOLATzcLEPCHA !KAbLAcHAdGAbLAdNG",
  "AdCAbHAdJAcNYAdTAbHAdDAcNAcPAbLAcHAdFAbLAdBAbLAdMAbLAdTSAbHAeDZAdYAcRAcLAcHAbLAdVAcSAbHAdWAcAi",
  "SUBJOINED !YAcRAtVOWEL. AAcIbOaOcUaUcEmCONSONANT. KbMbLbNbPbRbTbNYIN-DOhKANGtSIGN RANdNUKTA@1c",
  "3b@kPUNCTUATION TA-ROLgNYET THYOOM TA-ROLsCER-WAgTSHOOK CER-WAhsDIGIT ZEROeONEdTWOcHREEfFOURdI",
  "VEeSIXcEVENfEIGHTfNINE@1c4d@k!TTAbHAeDDArOL CHIKI DIGIT ZEROeONEdTWOcHREEfFOURdIVEeSIXcEVENfEI",
  "GHTfNINEk!LAcATbGbNGcLcLAAdAAKbJbMbWdLIcISbHbNYcRcLUcUCbDbNNcYcLEcEPbDDcNbRRdLOcOTTcBbVbHjMU T",
  "TUDDAGkGAAHLAA TTUDDAAGqMU-GAAHLAA TTUDDAAGtRELAAfPHAARKAAiAHADePUNCTUATION MUCAADg:MUCAADzjCY",
  "RILLIC %!ROUNDED VEkLONG-LEGGED DEoN^ OiWIDE EShTALL TEgHREE-LEGGED TEoALL HARD.jYATiUNBLENDED",
  " UK@1c90@zjGEORGIAN MTAVRULI $!ANcBANdGANdDONdENcVINdZENdTANdINcKANdLASdMANdNARdONcPARdZHAReRA",
  "EdSANdTARdUNcPHAReKHAReGHANeQARdSHINeCHINdANdJILdCILcHAReXANdJHANeHAEcEbIEdWEcHARcOEdFIcYNcELI",
  "FIfTURNED GANkAIN@1cbd@cENdHARD.jLABIAL.ztSUNDANESE PUNCTUATION BINDU SURYAfPANGLONGhURNAMAhCA",
  "KRAfLEU SATANGAlKA SATANGAkDA SATANGAkBA SATANGA@1cd0@znVEDIC TONE KARSHANAiSHARAfPRENKHAmSIGN",
  " NIHSHVASAjYAJURVEDIC MIDLINE SVARITAzgTONE YAJURVEDIC AGGRAVATED INDEPENDENT SVARITAzfINDEPEN",
  "DENT SVARITAtKATHAKA INDEPENDENT SVARITAznCANDRA,mYAJURVEDIC KATHAKA INDEPENDENT SVARITA SCHRO",
  "EDERzx:SVARITAoTRIPLE SVARITAoKATHAKA ANUDATTAqDOT,jTWO DOTS,nHREE DOTS,qRIGVEDIC KASHMIRI IND",
  "EPENDENT SVARITAzmATHARVAVEDIC INDEPENDENT SVARITAzmSIGN VISARGA SVARITAhUDATTAoREVERSED VISAR",
  "GA UDATTAxVISARGA ANUDATTAqREVERSED VISARGA ANUDATTAzaVISARGA UDATTA#TAILqANUDATTA#TAILzbANUSV",
  "ARA ANTARGOMUKHAmBAHIRGOMUKHAmVAMAGOMUKHAa#TAILzfTIRYAKgHEXIFORM LONG ANUSVARAwLONG ANUSVARAnR",
  "THANG LONG ANUSVARAuANUSVARA UBHAYATO MUKHAwRDHAVISARGAmROTATED ARDHAVISARGAzaTONE CANDRA+rSIG",
  "N JIHVAMULIYAlUPADHMANIYAlATIKRAMAnTONE RING+k:RING+wSIGN :ANUSVARA ANTARGOMUKHA@1d00@zoLATIN ",
  "!%$AaEx%!TURNED AEw!%$BARRED BiCbDbETHcw%!TURNED OPEN EgIv!%$JbKbL#STROKEnMbREVERSED NkOaPEN O",
  "zc%!SIDEWAYS OaPEN Of#STROKEwTURNED OEw!%$OUx%!TOP HALF OkBOTTOM HALF Ozb!%$PbREVERSED RkTURNE",
  "D RhbUw%!SIDEWAYS UbDIAERESIZED UnTURNED Mzf!%$VbWbZbEZHrVOICED LARYNGEAL SPIRANTyAINqGREEK !%",
  "$GAMMAfLAMDAfPIcRHOdPSIzfCYRILLIC !%$ELzhMODIFIER !$AaEcBaARRED BiDbEbREVERSED EkGbHbIbJbKbLbM",
  "bNbREVERSED NkOaUcPbRbTbUbWj%AbTURNED AiALPHAfTURNED AEjBbDbEbSCHWAfOPEN EgTURNED OPEN EnGbTUR",
  "NED IiKbMbENGdOaPEN OgTOP HALF OkBOTTOM HALF OnPbTbUbSIDEWAYS UkTURNED MiVbAINdBETAeGREEK GAMM",
  "AlDELTAfGREEK PHIjCHIzaLATIN SUBSCRIPT %!IbRbUbVzfGREEK SUBSCRIPT %!BETAeGAMMAfRHOdPHIdCHIzhLA",
  "TIN %!UEcB#MIDDLE TILDEtD#MIDDLE TILDEtF#MIDDLE TILDEtM#MIDDLE TILDEtN#MIDDLE TILDEtP#MIDDLE T",
  "ILDEtR#MIDDLE TILDEmFISHHOOK&MIDDLE TILDEzhS#MIDDLE TILDEtT#MIDDLE TILDEtZ#MIDDLE TILDEtTURNED",
  " GzcMODIFIER !CYRILLIC ENzcLATIN %!INSULAR GjTH#STRIKETHROUGHzd$!I#STROKEzd!IOTA#STROKEqP#STRO",
  "KEu$!U#STROKEzd!UPSILON#STROKEtB#PALATAL HOOKtD#PALATAL HOOKtF#PALATAL HOOKtG#PALATAL HOOKtK#P",
  "ALATAL HOOKtL#PALATAL HOOKtM#PALATAL HOOKtN#PALATAL HOOKtP#PALATAL HOOKtR#PALATAL HOOKtS#PALAT",
  "AL HOOKtESH#PALATAL HOOKvV#PALATAL HOOKtX#PALATAL HOOKtZ#PALATAL HOOKtA#RETROFLEX HOOKuLPHA#RE",
  "TROFLEX HOOKzaD#HOOK&TAILuE#RETROFLEX HOOKvOPEN E#RETROFLEX HOOKzbREVERSED OPEN E#RETROFLEX HO",
  "OKzkSCHWA#RETROFLEX HOOKzaI#RETROFLEX HOOKvOPEN O#RETROFLEX HOOKzbESH#RETROFLEX HOOKxU#RETROFL",
  "EX HOOKvEZH#RETROFLEX HOOKzrMODIFIER !%TURNED ALPHAmCa#CURLlETHdREVERSED OPEN EpFbDOTLESS J#ST",
  "ROKEvSCRIPT GiTURNED HiI#STROKEmOTAe$Ia#STROKEvJ#CROSSED-TAILtL#RETROFLEX HOOKoPALATAL HOOKt$L",
  "jM#HOOKlTURNED M#LONG LEGwN#[HOOKjRETROFLEX HOOKv$NjBARRED OiPHIdS#HOOKlESHdT#PALATAL HOOKtU B",
  "ARePSILONh$UjV#HOOKlTURNED ViZa#RETROFLEX HOOKoCURLlEZHdTHETAzcCOMBINING DOTTED GRAVE ACCENTmA",
  "CUTE ACCENTtSNAKE,kUSPENSION?pMACRON-ACUTEmGRAVE-MACRONmMACRON-GRAVEmACUTE-MACRONmGRAVE-ACUTE-",
  "GRAVErACUTE-GRAVE-ACUTErLATIN %!R,zbBREVE-MACRONmMACRON-BREVEm:CIRCUMFLEX+xOGONEK+mZIGZAG,mIS,",
  "iUR+hS+iLATIN %!FLATTENED OPEN A+wAEbObVcC CEDILLAjINSULAR DjETHdGo!%$Gw%!KbLo!%$LbMw%!No!%$Nb",
  "Rw%!R ROTUNDAjSbLONG SgZbALPHAfBaETAeSCHWAfFbL#:MIDDLE TILDEzbO#LIGHT CENTRALIZATION STROKEzjP",
  "bESHdU#LIGHT CENTRALIZATION STROKEzjWbA#DIAERESISqO#DIAERESISqU#DIAERESISzkUP TACK+nKAVYKA+ RI",
  "GHTfLEFTrDOT+ LEFToWIDE INVERTED BRIDGE,zbDOT, LEFTnELETION?mOUBLE INVERTED BREVE,zcALMOST EQU",
  "AL TO,v[^HEAD+u]^HEAD&DOWN ^HEAD,zzaLATIN $!A#RING,zh%!A#RING,zf$!B#DOT+zg%!B#DOT+ze$!B#DOT,zg",
  "%!B#DOT,ze$!B#LINE,zh%!B#LINE,zf$!C#CEDILLA&ACUTEzo%!C#CEDILLA&ACUTEzm$!D#DOT+zg%!D#DOT+ze$!D#",
  "DOT,zg%!D#DOT,ze$!D#LINE,zh%!D#LINE,zf$!D#CEDILLAze%!D#CEDILLAzc$!D#CIRCUMFLEX,zn%!D#CIRCUMFLE",
  "X,zl$!E#MACRON&GRAVEzn%!E#MACRON&GRAVEzl$!E#MACRON&ACUTEzn%!E#MACRON&ACUTEzl$!E#CIRCUMFLEX,zn%",
  "!E#CIRCUMFLEX,zl$!E#TILDE,zi%!E#TILDE,zg$!E#CEDILLA&BREVEzo%!E#CEDILLA&BREVEzm$!F#DOT+zg%!F#DO",
  "T+ze$!G#MACRONzd%!G#MACRONzb$!H#DOT+zg%!H#DOT+ze$!H#DOT,zg%!H#DOT,ze$!H#DIAERESISzg%!H#DIAERES",
  "ISze$!H#CEDILLAze%!H#CEDILLAzc$!H#BREVE,zi%!H#BREVE,zg$!I#TILDE,zi%!I#TILDE,zg$!I#DIAERESIS&AC",
  "UTEzq%!I#DIAERESIS&ACUTEzo$!K#ACUTEzc%!K#ACUTEza$!K#DOT,zg%!K#DOT,ze$!K#LINE,zh%!K#LINE,zf$!L#",
  "DOT,zg%!L#DOT,ze$!L#DOT,&MACRONzr%!L#DOT,&MACRONzp$!L#LINE,zh%!L#LINE,zf$!L#CIRCUMFLEX,zn%!L#C",
  "IRCUMFLEX,zl$!M#ACUTEzc%!M#ACUTEza$!M#DOT+zg%!M#DOT+ze$!M#DOT,zg%!M#DOT,ze$!N#DOT+zg%!N#DOT+ze",
  "$!N#DOT,zg%!N#DOT,ze$!N#LINE,zh%!N#LINE,zf$!N#CIRCUMFLEX,zn%!N#CIRCUMFLEX,zl$!O#TILDE&ACUTEzm%",
  "!O#TILDE&ACUTEzk$!O#TILDE&DIAERESISzq%!O#TILDE&DIAERESISzo$!O#MACRON&GRAVEzn%!O#MACRON&GRAVEzl",
  "$!O#MACRON&ACUTEzn%!O#MACRON&ACUTEzl$!P#ACUTEzc%!P#ACUTEza$!P#DOT+zg%!P#DOT+ze$!R#DOT+zg%!R#DO",
  "T+ze$!R#DOT,zg%!R#DOT,ze$!R#DOT,&MACRONzr%!R#DOT,&MACRONzp$!R#LINE,zh%!R#LINE,zf$!S#DOT+zg%!S#",
  "DOT+ze$!S#DOT,zg%!S#DOT,ze$!S#ACUTE&DOT+zq%!S#ACUTE&DOT+zo$!S#CARON&DOT+zq%!S#CARON&DOT+zo$!S#",
  "DOT,&DOT+zu%!S#DOT,&DOT+zs$!T#DOT+zg%!T#DOT+ze$!T#DOT,zg%!T#DOT,ze$!T#LINE,zh%!T#LINE,zf$!T#CI",
  "RCUMFLEX,zn%!T#CIRCUMFLEX,zl$!U#DIAERESIS,zm%!U#DIAERESIS,zk$!U#TILDE,zi%!U#TILDE,zg$!U#CIRCUM",
  "FLEX,zn%!U#CIRCUMFLEX,zl$!U#TILDE&ACUTEzm%!U#TILDE&ACUTEzk$!U#MACRON&DIAERESISzr%!U#MACRON&DIA",
  "ERESISzp$!V#TILDEzc%!V#TILDEza$!V#DOT,zg%!V#DOT,ze$!W#GRAVEzc%!W#GRAVEza$!W#ACUTEzc%!W#ACUTEza",
  "$!W#DIAERESISzg%!W#DIAERESISze$!W#DOT+zg%!W#DOT+ze$!W#DOT,zg%!W#DOT,ze$!X#DOT+zg%!X#DOT+ze$!X#",
  "DIAERESISzg%!X#DIAERESISze$!Y#DOT+zg%!Y#DOT+ze$!Z#CIRCUMFLEXzh%!Z#CIRCUMFLEXzf$!Z#DOT,zg%!Z#DO",
  "T,ze$!Z#LINE,zh%!Z#LINE,rH#LINE,rT#DIAERESISqW#RING+rY#RING+rA#]HALF RINGwLONG S#DOT+iIAGONAL ",
  "STROKEpHIGH STROKEzl$!SHARP Sw%!DELTAs$!A#DOT,zg%!A#DOT,ze$!A#HOOK+zh%!A#HOOK+zf$!A#CIRCUMFLEX",
  "&ACUTEzr%!A#CIRCUMFLEX&ACUTEzp$!A#CIRCUMFLEX&GRAVEzr%!A#CIRCUMFLEX&GRAVEzp$!A#CIRCUMFLEX&HOOK+",
  "zw%!A#CIRCUMFLEX&HOOK+zu$!A#CIRCUMFLEX&TILDEzr%!A#CIRCUMFLEX&TILDEzp$!A#CIRCUMFLEX&DOT,zv%!A#C",
  "IRCUMFLEX&DOT,zt$!A#BREVE&ACUTEzm%!A#BREVE&ACUTEzk$!A#BREVE&GRAVEzm%!A#BREVE&GRAVEzk$!A#BREVE&",
  "HOOK+zr%!A#BREVE&HOOK+zp$!A#BREVE&TILDEzm%!A#BREVE&TILDEzk$!A#BREVE&DOT,zq%!A#BREVE&DOT,zo$!E#",
  "DOT,zg%!E#DOT,ze$!E#HOOK+zh%!E#HOOK+zf$!E#TILDEzc%!E#TILDEza$!E#CIRCUMFLEX&ACUTEzr%!E#CIRCUMFL",
  "EX&ACUTEzp$!E#CIRCUMFLEX&GRAVEzr%!E#CIRCUMFLEX&GRAVEzp$!E#CIRCUMFLEX&HOOK+zw%!E#CIRCUMFLEX&HOO",
  "K+zu$!E#CIRCUMFLEX&TILDEzr%!E#CIRCUMFLEX&TILDEzp$!E#CIRCUMFLEX&DOT,zv%!E#CIRCUMFLEX&DOT,zt$!I#",
  "HOOK+zh%!I#HOOK+zf$!I#DOT,zg%!I#DOT,ze$!O#DOT,zg%!O#DOT,ze$!O#HOOK+zh%!O#HOOK+zf$!O#CIRCUMFLEX",
  "&ACUTEzr%!O#CIRCUMFLEX&ACUTEzp$!O#CIRCUMFLEX&GRAVEzr%!O#CIRCUMFLEX&GRAVEzp$!O#CIRCUMFLEX&HOOK+",
  "zw%!O#CIRCUMFLEX&HOOK+zu$!O#CIRCUMFLEX&TILDEzr%!O#CIRCUMFLEX&TILDEzp$!O#CIRCUMFLEX&DOT,zv%!O#C",
  "IRCUMFLEX&DOT,zt$!O#HORN&ACUTEzl%!O#HORN&ACUTEzj$!O#HORN&GRAVEzl%!O#HORN&GRAVEzj$!O#HORN&HOOK+",
  "zq%!O#HORN&HOOK+zo$!O#HORN&TILDEzl%!O#HORN&TILDEzj$!O#HORN&DOT,zp%!O#HORN&DOT,zn$!U#DOT,zg%!U#",
  "DOT,ze$!U#HOOK+zh%!U#HOOK+zf$!U#HORN&ACUTEzl%!U#HORN&ACUTEzj$!U#HORN&GRAVEzl%!U#HORN&GRAVEzj$!",
  "U#HORN&HOOK+zq%!U#HORN&HOOK+zo$!U#HORN&TILDEzl%!U#HORN&TILDEzj$!U#HORN&DOT,zp%!U#HORN&DOT,zn$!",
  "Y#GRAVEzc%!Y#GRAVEza$!Y#DOT,zg%!Y#DOT,ze$!Y#HOOK+zh%!Y#HOOK+zf$!Y#TILDEzc%!Y#TILDEza$!MIDDLE-W",
  "ELSH LLzf%!MIDDLE-WELSH LLzd$!MIDDLE-WELSH Vze%!MIDDLE-WELSH Vzc$!Y#LOOPzb%!Y#LOOPzfGREEK %!AL",
  "PHA#PSILIfDASIAfPSILI&VARIApDASIA&VARIApPSILI&OXIAoDASIA&OXIAoPSILI&PERISPOMENIvDASIA&PERISPOM",
  "ENIzu$!ALPHA#PSILIfDASIAfPSILI&VARIApDASIA&VARIApPSILI&OXIAoDASIA&OXIAoPSILI&PERISPOMENIvDASIA",
  "&PERISPOMENIzw%!EPSILON#PSILIfDASIAfPSILI&VARIApDASIA&VARIApPSILI&OXIAoDASIA&OXIA@1f18@zp$!EPS",
  "ILON#PSILIfDASIAfPSILI&VARIApDASIA&VARIApPSILI&OXIAoDASIA&OXIA@1f20@zr%!ETA#PSILIfDASIAfPSILI&",
  "VARIApDASIA&VARIApPSILI&OXIAoDASIA&OXIAoPSILI&PERISPOMENIvDASIA&PERISPOMENIzs$!ETA#PSILIfDASIA",
  "fPSILI&VARIApDASIA&VARIApPSILI&OXIAoDASIA&OXIAoPSILI&PERISPOMENIvDASIA&PERISPOMENIzu%!IOTA#PSI",
  "LIfDASIAfPSILI&VARIApDASIA&VARIApPSILI&OXIAoDASIA&OXIAoPSILI&PERISPOMENIvDASIA&PERISPOMENIzt$!",
  "IOTA#PSILIfDASIAfPSILI&VARIApDASIA&VARIApPSILI&OXIAoDASIA&OXIAoPSILI&PERISPOMENIvDASIA&PERISPO",
  "MENIzv%!OMICRON#PSILIfDASIAfPSILI&VARIApDASIA&VARIApPSILI&OXIAoDASIA&OXIA@1f48@zp$!OMICRON#PSI",
  "LIfDASIAfPSILI&VARIApDASIA&VARIApPSILI&OXIAoDASIA&OXIA@1f50@zr%!UPSILON#PSILIfDASIAfPSILI&VARI",
  "ApDASIA&VARIApPSILI&OXIAoDASIA&OXIAoPSILI&PERISPOMENIvDASIA&PERISPOMENI@1f59@zw$!UPSILON#DASIA",
  "@1f5b@a&VARIA@1f5d@fOXIA@1f5f@ePERISPOMENIzy%!OMEGA#PSILIfDASIAfPSILI&VARIApDASIA&VARIApPSILI&",
  "OXIAoDASIA&OXIAoPSILI&PERISPOMENIvDASIA&PERISPOMENIzu$!OMEGA#PSILIfDASIAfPSILI&VARIApDASIA&VAR",
  "IApPSILI&OXIAoDASIA&OXIAoPSILI&PERISPOMENIvDASIA&PERISPOMENIzw%!ALPHA#VARIAfOXIApEPSILON#VARIA",
  "fOXIAqTA#VARIAfOXIAnIOTA#VARIAfOXIAoOMICRON#VARIAfOXIArUPSILON#VARIAfOXIArOMEGA#VARIAfOXIA@1f8",
  "0@pALPHA#PSILI&YPOGEGRAMMENIxDASIA&YPOGEGRAMMENIxPSILI&VARIA&YPOGEGRAMMENIziDASIA&VARIA&YPOGEG",
  "RAMMENIziPSILI&OXIA&YPOGEGRAMMENIzhDASIA&OXIA&YPOGEGRAMMENIzhPSILI&PERISPOMENI&YPOGEGRAMMENIzo",
  "DASIA&PERISPOMENI&YPOGEGRAMMENIzzn$!ALPHA#PSILI&PROSGEGRAMMENIyDASIA&PROSGEGRAMMENIyPSILI&VARI",
  "A&PROSGEGRAMMENIzjDASIA&VARIA&PROSGEGRAMMENIzjPSILI&OXIA&PROSGEGRAMMENIziDASIA&OXIA&PROSGEGRAM",
  "MENIziPSILI&PERISPOMENI&PROSGEGRAMMENIzpDASIA&PERISPOMENI&PROSGEGRAMMENIzzq%!ETA#PSILI&YPOGEGR",
  "AMMENIxDASIA&YPOGEGRAMMENIxPSILI&VARIA&YPOGEGRAMMENIziDASIA&VARIA&YPOGEGRAMMENIziPSILI&OXIA&YP",
  "OGEGRAMMENIzhDASIA&OXIA&YPOGEGRAMMENIzhPSILI&PERISPOMENI&YPOGEGRAMMENIzoDASIA&PERISPOMENI&YPOG",
  "EGRAMMENIzzl$!ETA#PSILI&PROSGEGRAMMENIyDASIA&PROSGEGRAMMENIyPSILI&VARIA&PROSGEGRAMMENIzjDASIA&",
  "VARIA&PROSGEGRAMMENIzjPSILI&OXIA&PROSGEGRAMMENIziDASIA&OXIA&PROSGEGRAMMENIziPSILI&PERISPOMENI&",
  "PROSGEGRAMMENIzpDASIA&PERISPOMENI&PROSGEGRAMMENIzzo%!OMEGA#PSILI&YPOGEGRAMMENIxDASIA&YPOGEGRAM",
  "MENIxPSILI&VARIA&YPOGEGRAMMENIziDASIA&VARIA&YPOGEGRAMMENIziPSILI&OXIA&YPOGEGRAMMENIzhDASIA&OXI",
  "A&YPOGEGRAMMENIzhPSILI&PERISPOMENI&YPOGEGRAMMENIzoDASIA&PERISPOMENI&YPOGEGRAMMENIzzn$!OMEGA#PS",
  "ILI&PROSGEGRAMMENIyDASIA&PROSGEGRAMMENIyPSILI&VARIA&PROSGEGRAMMENIzjDASIA&VARIA&PROSGEGRAMMENI",
  "zjPSILI&OXIA&PROSGEGRAMMENIziDASIA&OXIA&PROSGEGRAMMENIziPSILI&PERISPOMENI&PROSGEGRAMMENIzpDASI",
  "A&PERISPOMENI&PROSGEGRAMMENIzzq%!ALPHA#VRACHYgMACRONgVARIA&YPOGEGRAMMENIxYPOGEGRAMMENInOXIA&YP",
  "OGEGRAMMENI@1fb6@wPERISPOMENIa&YPOGEGRAMMENIzzd$!ALPHA#VRACHYgMACRONgVARIAfOXIAePROSGEGRAMMENI",
  "zpKORONIShPROSGEGRAMMENInSILIeERISPOMENIlDIALYTIKA&PERISPOMENIza%!ETA#VARIA&YPOGEGRAMMENIxYPOG",
  "EGRAMMENInOXIA&YPOGEGRAMMENI@1fc6@wPERISPOMENIa&YPOGEGRAMMENIzzb$!EPSILON#VARIAfOXIAqTA#VARIAf",
  "OXIAePROSGEGRAMMENIznPSILI&VARIAfOXIAePERISPOMENIv%!IOTA#VRACHYgMACRONgDIALYTIKA&VARIAfOXIA@1f",
  "d6@sPERISPOMENIlDIALYTIKA&PERISPOMENIzx$!IOTA#VRACHYgMACRONgVARIAfOXIA@1fdd@zeDASIA&VARIAfOXIA",
  "ePERISPOMENIv%!UPSILON#VRACHYgMACRONgDIALYTIKA&VARIAfOXIAzgRHO#PSILIfDASIAoUPSILON#PERISPOMENI",
  "lDIALYTIKA&PERISPOMENIzzb$!UPSILON#VRACHYgMACRONgVARIAfOXIArRHO#DASIAzeDIALYTIKA&VARIAfOXIAsVA",
  "RIA@1ff2@f%!OMEGA#VARIA&YPOGEGRAMMENIxYPOGEGRAMMENInOXIA&YPOGEGRAMMENI@1ff6@wPERISPOMENIa&YPOG",
  "EGRAMMENIzzd$!OMICRON#VARIAfOXIApEGA#VARIAfOXIAePROSGEGRAMMENIzpOXIAeDASIA"]

end ProposalCheck.Text.CharacterName
