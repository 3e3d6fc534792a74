/-!
# Names in East Asian scripts

The names of the characters from `U+3000` to `U+FFFF`, those with computed names aside, in the short
form that `CharacterName.search` reads (Unicode 14).
-/

namespace ProposalCheck.Text.CharacterName

/-- The names in East Asian scripts and their compatibility forms. -/
def ideogramNames : List String := [
  "@3000@aIDEOGRAPHIC SPACEfCOMMAfFULL STOPvDITTO?kJAPANESE INDUSTRIAL STANDARD SYMBOLzkIDEOGRAPH",
  "IC ITERATION?oCLOSING?mNUMBER ZEROx[ANGLE BRACKETs]ANGLE BRACKETt[:ANGLE BRACKETza]:ANGLE BRAC",
  "KETzb[CORNER BRACKETt]CORNER BRACKETu[WHITE CORNER BRACKETza]WHITE CORNER BRACKETzb[)LENTICULA",
  "R BRACKETze])LENTICULAR BRACKETzfPOSTAL?lGETA?j[TORTOISE SHELL BRACKETzc]TORTOISE SHELL BRACKE",
  "Tzd[WHITE LENTICULAR BRACKETze]WHITE LENTICULAR BRACKETzf[WHITE TORTOISE SHELL BRACKETzi]WHITE",
  " TORTOISE SHELL BRACKETzj[WHITE SQUARE BRACKETza]WHITE SQUARE BRACKETzbWAVE DASHjREVERSED :PRI",
  "ME QUOTATION?zl:PRIME QUOTATION?zcLOW :PRIME QUOTATION?zgPOSTAL? FACEqHANGZHOU NUMERAL ONEdTWO",
  "cHREEfFOURdIVEeSIXcEVENfEIGHTfNINEvIDEOGRAPHIC LEVEL TONE?pRISING TONE?qDEPARTING TONE?tENTERI",
  "NG TONE?zfHANGUL SINGLE DOT TONE?u:DOT TONE?zcWAVY DASHj|KANA REPEAT?eWITH VOICED SOUND?wMARK ",
  "UPPER HALFpWITH VOICED SOUND? UPPER HALFziMARK LOWER HALFzlCIRCLED POSTAL?tIDEOGRAPHIC TELEGRA",
  "PH LINE FEED SEPARATOR SYMBOLzxHANGZHOU NUMERAL TENcWENTYfHIRTYx|IDEOGRAPHIC ITERATION?zkMASU?",
  "jPART ALTERNATION?vIDEOGRAPHIC VARIATION INDICATORtHALF FILL SPACE@3041@zcHIRAGANA !%AhAb%IhIb",
  "%UhUb%EhEb%OhObKAcGAcKIcGIcKUcGUcKEcGEcKOcGOcSAcZAcSIcZIcSUcZUcSEcZEcSOcZOcTAcDAcTIcDIc%TUiTUc",
  "DUcTEcDEcTOcDOcNAbIbUbEbOcHAcBAcPAcHIcBIcPIcHUcBUcPUcHEcBEcPEcHOcBOcPOcMAbIbUbEbOc%YAiYAc%YUiY",
  "Uc%YOiYOcRAbIbUbEbOc%WAiWAbIbEbOcNbVUc%KAbE@3099@yCOMBINING KATAKANA-HIRAGANA VOICED SOUND?rSE",
  "MI-VOICED SOUND?zzaKATAKANA-HIRAGANA VOICED SOUND?rSEMI-VOICED SOUND?zpHIRAGANA ITERATION?oVOI",
  "CED ITERATION?vDIGRAPH YORIvKATAKANA-HIRAGANA :HYPHENx !%AhAb%IhIb%UhUb%EhEb%OhObKAcGAcKIcGIcK",
  "UcGUcKEcGEcKOcGOcSAcZAcSIcZIcSUcZUcSEcZEcSOcZOcTAcDAcTIcDIc%TUiTUcDUcTEcDEcTOcDOcNAbIbUbEbOcHA",
  "cBAcPAcHIcBIcPIcHUcBUcPUcHEcBEcPEcHOcBOcPOcMAbIbUbEbOc%YAiYAc%YUiYUc%YOiYOcRAbIbUbEbOc%WAiWAbI",
  "bEbOcNbVUc%KAbEiVAbIbEbOjMIDDLE DOTl-HIRAGANA PROLONGED SOUND?zf ITERATION?oVOICED ITERATION?v",
  "DIGRAPH KOTO@3105@vBOPOMOFO !BbPbMbFbDbTbNbLbGbKbHbJbQbXbZHcCHcSHcRbZbCbSbAbObEaHcAIcEIcAUcOUc",
  "ANcENcANGdENGcRcIbUbIUcVbNGcGNcIHcO#DOT+qNN@3131@sHANGUL !KIYEOKgSSANGKIYEOKlKIYEOK-SIOSlNIEUN",
  "a-CIEUCfHIEUHlTIKEUTgSSANGTIKEUTlRIEULa-KIYEOKgMIEUMfPIEUPfSIOSeTHIEUTHhPHIEUPHhHIEUHlMIEUMfPI",
  "EUPfSSANGPIEUPkPIEUP-SIOSkSIOSdSANGSIOSjIEUNGfCIEUCfSSANGCIEUCkCHIEUCHhKHIEUKHhTHIEUTHhPHIEUPH",
  "hHIEUHfAaEcYAaEdEObbYEObcObWAaEdOEcYOcUbWEObbIcYUcEUcYIcIiFILLERg!SSANGNIEUNkNIEUN-TIKEUTgSIOS",
  "ePANSIOSnRIEUL-KIYEOK-SIOSlTIKEUTgPIEUP-SIOSjANSIOShYEORINHIEUHrMIEUM-PIEUPfSIOSePANSIOSnKAPYE",
  "OUNMIEUMnPIEUP-KIYEOKgTIKEUTgSIOS-KIYEOKgTIKEUTlCIEUCfTHIEUTHnKAPYEOUNPIEUPfSSANGPIEUPsSIOS-KI",
  "YEOKgNIEUNfTIKEUTgPIEUPfCIEUCkPANSIOShSSANGIEUNGkYESIEUNGa-SIOSePANSIOSqKAPYEOUNPHIEUPHpSSANGH",
  "IEUHkYEORINHIEUHkO-YAaEdIdU-YEObcIeARAEAaE@3190@uIDEOGRAPHIC ANNOTATION LINKING?mREVERSE?mONE?",
  "iTWO?hHREE?kFOUR?jTOP?iMIDDLE?lBOTTOM?lFIRST?kSECOND?lTHIRD?kFOURTH?lHEAVEN?lEARTH?kMAN?zgBOPO",
  "MOFO !BUcZIcJIcGUcEEbNNdOObNNdIRcANNdINNdUNNdIMcNGGdAINNdUNNdMcOMbNGdINNNlFINAL !PbTbKbHo!GHcL",
  "HcZYjFINAL !Go!GWcKWcOEcAHsCJK STROKE TbWGcXGcBXGdSWcHZZbGcPbZWGeSZWGeHZTbZPdPWGdZWbZZeNbHbSbP",
  "bSPcDbHZbGcSZbWZcTbGcPDbZcTNcSZZcWGdHXWGdZZZGfPGcQ@31f0@mKATAKANA !%KUcSIbUcTOcNUcHAbIbUbEbOcM",
  "UcRAbIbUbEbOyPARENTHESIZED HANGUL KIYEOKgNIEUNfTIKEUTgRIEULfMIEUMfPIEUPfSIOSeIEUNGfCIEUCeHIEUC",
  "HhKHIEUKHhTHIEUTHhPHIEUPHhHIEUHfKIYEOK AiNIEUN AhTIKEUT AiRIEUL AhMIEUM AhPIEUP AhSIOS AgIEUNG",
  " AhCIEUC AgHIEUCH AjKHIEUKH AjTHIEUTH AjPHIEUPH AjHIEUH AhCIEUC UoKOREAN CHARACTER OJEONe HU@3",
  "220@vIDEOGRAPH ONEdTWOcHREEfFOURdIVEeSIXcEVENfEIGHTfNINEeTENdMOONeFIREeWATEReOODeMETALfEARTHfS",
  "UNcTOCKfHAVEeSOCIETYhNAMEeSPECIALhFINANCIALjCONGRATULATIONoLABORfREPRESENTjCALLeSTUDYeUPERVISE",
  "jENTERPRISEkRESOURCEiALLIANCEiFESTIVALiRESTeSELFeREACHzeCIRCLED IDEOGRAPH QUESTIONiKINDERGARTE",
  "NmSCHOOLgKOTOoNUMBER TEN ON )SQUAREsWENTY ON )SQUAREvHIRTY ON )SQUAREwFORTY ON )SQUAREuIFTY ON",
  " )SQUAREvSIXTY ON )SQUAREuEVENTY ON )SQUARExEIGHTY ON )SQUAREzmPARTNERSHIP.qCIRCLED NUMBER TWE",
  "NTY ONEdTWOcHREEfFOURdIVEeSIXcEVENfEIGHTfNINEkHIRTYa ONEdTWOcHREEfFOURdIVEsHANGUL KIYEOKgNIEUN",
  "fTIKEUTgRIEULfMIEUMfPIEUPfSIOSeIEUNGfCIEUCeHIEUCHhKHIEUKHhTHIEUTHhPHIEUPHhHIEUHfKIYEOK AiNIEUN",
  " AhTIKEUT AiRIEUL AhMIEUM AhPIEUP AhSIOS AgIEUNG AhCIEUC AgHIEUCH AjKHIEUKH AjTHIEUTH AjPHIEUP",
  "H AjHIEUH AoKOREAN CHARACTER CHAMKOgJUEUIwHANGUL IEUNG UwKOREAN STANDARD SYMBOLwCIRCLED IDEOGR",
  "APH ONEdTWOcHREEfFOURdIVEeSIXcEVENfEIGHTfNINEeTENdMOONeFIREeWATEReOODeMETALfEARTHfSUNcTOCKfHAV",
  "EeSOCIETYhNAMEeSPECIALhFINANCIALjCONGRATULATIONoLABORfSECRETgMALEeFEMALEgSUITABLEiEXCELLENTjPR",
  "INTfATTENTIONjITEMeRESTeCOPYcRRECThHIGHeCENTREgLOWcEFTeRIGHTfMEDICINEiRELIGIONiSTUDYeUPERVISEj",
  "ENTERPRISEkRESOURCEiALLIANCEiNIGHTpNUMBER THIRTY SIXcEVENfEIGHTfNINElFORTYa ONEdTWOcHREEfFOURd",
  "IVEeSIXcEVENfEIGHTfNINEjIFTYuIDEOGRAPHIC TELEGRAPH ~FOR JANUARYhFEBRUARYiMARCHfAPRILfMAYdJUNEc",
  "LYeAUGUSTgSEPTEMBERjOCTOBERhNOVEMBERiDECEMBERzqSQUARE HGcERGcVjLIMITED LIABILITY.wCIRCLED KATA",
  "KANA AbIbUbEbObKAbIbUbEbOcSAbIbUbEbOcTAbIbUbEbOcNAbIbUbEbOcHAbIbUbEbOcMAbIbUbEbOcYAbUbOcRAbIbU",
  "bEbOcWAbIbEbOtSQUARE ERA NAME REIWAoAPAATOfRUHUAfNPEAeARUeININGUeTIeUONdESUKUUDOhEKAAfONSUdOMU",
  "eKAIRIdRATTOeORIIhGARONdNMAeIGAcNIIfKYURIIgGIRUDAAhKIROaGURAMUgMEETORUhWATTOjGURAMUaTONjKURUZE",
  "IROgOONEgEESUeORUNAeOPOfSAIKURUfNTIIMUhIRINGUgENTIbOfDAASUeESIdORUeTONdNANOdOTTOfHAITUfPAASENT",
  "OfTUfBAARERUhPIASUTORUhKURUdOeBIRUeHUARADDOgIITOgBUSSYERUiHURANeEKUTAARUjPESOcNIHIgHERUTUgPENS",
  "UdEZIfBEETAfPOINTOgBORUTOgHONdPONDOfHOORUcNeMAIKUROeRUdHHAdRUKUeNSYONgIKURONfRIaBAARUiEGAaTONf",
  "ETORUhYAADOcRUeUANeRITTORUfRAdUPIIdUBURUgEMUcNTOGENiWATTOmIDEOGRAPHIC TELEGRAPH ~FOR HOUR ZERO",
  "eONEdTWOcHREEfFOURdIVEeSIXcEVENfEIGHTfNINEeTENdELEVENgTWELVEfHIRTEENiFOURTEENhIFTEENhSIXTEENgE",
  "VENTEENjEIGHTEENiNINETEENiTWENTYa-ONEdTWOcHREEfFOURzySQUARE HPAdDAcAUcBARdOVcPCcDMa SQUAREDhCU",
  "BEDiIUcERA NAME HEISEIgSYOUWAgTAISYOUhMEIZIoCORPORATIONlPA AMPShNAcMU AdAcKAbBcMBcGBcCALdKCALe",
  "PFcNFcMU FbGdGcKGcHZcKHZdMHZdGHZdTHZdMU LdLcDLcKLcFMcNMcMU MdMcCMcKMcMM SQUAREDkCM SQUAREDkM S",
  "QUAREDjKM SQUAREDkMM CUBEDiCM CUBEDiM CUBEDhKM CUBEDiM OVER Sa SQUAREDqPAcKPAdMPAdGPAdRADa OVE",
  "R Sa SQUAREDsPScNScMU SdScPVcNVcMU VdVcKVcMV MEGAhPWcNWcMU WdWcKWcMW MEGAhK OHMfM OHMfAMcBQcCC",
  "bDb OVER KGiOcDBcGYcHAbPcINcKKbM CAPITALjTcLMbNbOGcXcMB SMALLhILcOLdPHbMbPMcRcSRbVcWBcV OVER M",
  "iA OVER MpIDEOGRAPHIC TELEGRAPH ~FOR DAY ONEdTWOcHREEfFOURdIVEeSIXcEVENfEIGHTfNINEeTENdELEVENg",
  "TWELVEfHIRTEENiFOURTEENhIFTEENhSIXTEENgEVENTEENjEIGHTEENiNINETEENiTWENTYa-ONEdTWOcHREEfFOURdIV",
  "EeSIXcEVENfEIGHTfNINEkHIRTYa-ONEzwSQUARE GAL@4dc0@kHEXAGRAM FOR THE CREATIVE HEAVENpRECEPTIVE ",
  "EARTHtDIFFICULTY AT THE BEGINNINGzcYOUTHFUL FOLLYoWAITINGhCONFLICTiTHE ARMYiHOLDING TOGETHERq%",
  "TAMINGmTREADINGiPEACEfSTANDSTILLkFELLOWSHIPkGREAT POSSESSIONqMODESTYhENTHUSIASMkFOLLOWINGjWORK",
  " ON THE DECAYEDtAPPROACHiCONTEMPLATIONnBITING THROUGHoGRACEfSPLITTING APARTpRETURNgINNOCENCEjG",
  "REAT TAMINGmMOUTH CORNERSnGREAT PREPONDERANCEtTHE ABYSMAL WATERnCLINGING FIRErINFLUENCEjDURATI",
  "ONiRETREAThGREAT POWERlPROGRESSiDARKENING OF THE LIGHTwTHE FAMILYkOPPOSITIONjBSTRUCTIONlDELIVE",
  "RANCEjCREASEiINCREASEiBREAKTHROUGHmCOMING TO MEEToGATHERING TOGETHERsPUSHING UPWARDoOPPRESSION",
  "kTHE WELLiREVOLUTIONkTHE CAULDRONiAROUSING THUNDERqKEEPING STILL MOUNTAINzbDEVELOPMENTlTHE MAR",
  "RYING MAIDENtABUNDANCEjTHE WANDERERiGENTLE WINDlJOYOUS LAKEpDISPERSIONkLIMITATIONkINNER TRUTHl",
  "%PREPONDERANCEtAFTER COMPLETIONqBEFORE COMPLETION@a000@zfYI _ITbXbaPbETbXbaPdATbXbaPcUOXbaPdOT",
  "bXbaPcEXbbWUcBITbXbaPbETbXbaPdATbXbaPcUOXbaPdOTbXbaPcEXbaPcUTbXbaPbRXbcYTbXbaPbRXbdPITbXbaPbEX",
  "baPdATbXbaPcUOXbaPdOTbXbaPcUTbXbaPbRXbcYTbXbaPbRXbdBBITbXbaPbETbXbaPdATbXbaPcUOXbaPdOTbXbaPcEX",
  "baPcUTbXbaPbRXbcYTbXbaPeNBITbXbaPbEXbaPdATbXbaPcOTbXbaPcUTbXbaPbRXbcYTbXbaPbRXbeHMITbXbaPbEXba",
  "PdATbXbaPcUOXbaPdOTbXbaPcUTbXbaPbRXbcYXbaPbRXbeMITbXbaPbEXbaPdATbXbaPcUOTbXbaPdOTbXbaPcEXbbUTb",
  "XbaPbRXbcYTbXbaPdFITbXbaPcATbXbaPcOXbaPcUTbXbaPbRXbcYTbXbaPdVITbXbaPbETbXbaPdATbXbaPcOTbXbaPcE",
  "XbPcUTbXbaPbRXbcYTbXbaPbRXbdDITbXbaPbEXbaPdATbXbaPcUOXbcOTbXbaPcEXbaPcUTbXbaPbRXbdTITbXbaPbEXb",
  "aPdATbXbaPcUOTbXbaPdOTbXbaPcEXbaPcUTbXbaPbRXbdDDITbXbaPbEXbaPdATbXbaPcUOXbaPdOTbXbaPcEXbaPcUTb",
  "XbaPbRXbeNDITbXbaPbEXbcATbXbaPcOTbXbaPcEXbaPcUTbXbaPbRXbeHNITbXbaPbETbXbaPdATbXbaPcUOXbcOTbXbP",
  "cEXbaPcUTeNITbXbaPbEXbaPdAXbaPcUOXbaPdOTbXbaPcEXbaPcUTbXbaPbRXbdHLITbXbaPbEXbaPdATbXbaPcUOXbaP",
  "dOXbaPcEXbaPcUTbXbaPbRXbcYTbXbaPbRXbeLITbXbaPbETbXbaPdATbXbaPcUOTbXbaPdOTbXbaPcEXbaPcUTbXbaPbR",
  "XbcYTbXbaPbRXbdGITbXbaPbETbXbaPdATbXbaPcUOTbXbaPdOTbXbaPcETbXbaPcUTbXbaPbRXbdKITbXbaPbEXbaPdAT",
  "bXbaPcUOXbaPdOTbXbaPcETbXbaPcUTbXbaPbRXbdGGITbXbaEXbaPdATbXbaPcUOTbXbaPdOTbXbaPcETbXbaPcUTbXba",
  "PbRXbeMGIEXbcATbXbaPcUOXbaPdOTbXbaPcEXbaPcUTbXbaPbRXbeHXITbXbaPbETbXbaPdATbXbaPcUOTbXbaPdOTbXb",
  "aPcEXbaPeNGIEXbaPdATbXbaPcUOTbXbcOTbXbaPcEXbaPeHITbEXbcATbXbaPcUOTbXbaPdOTbXbaPcEXbaPdWATbXbaP",
  "cUOXbaPdOXbaPcEXbaPdZITbXbaPbEXbaPdATbXbaPcUOXbaPdOTbXbaPcEXbaPcUTbXbaPbRXbcYTbXbaPbRXbdCITbXb",
  "aPbETbXbaPdATbXbaPcUOXbaPdOTbXbaPcEXbaPcUTbXbaPbRXbcYTbXbaPbRXbdZZITbXbaPbETbXbaPdATbXbaPcOXba",
  "PcEXbaPcUXbaPbRXbcYTbXbaPbRXbeNZITbXbaPbEXbaPdATbXbaPcUOXbcOXbPcEXbbUXbaPbRXbcYTbXbaPbRXbeSITb",
  "XbaPbEXbaPdATbXbaPcUOXbaPdOTbXbaPcEXbaPcUTbXbaPbRXbcYTbXbaPbRXbcSITbXbaPbEXbaPdATbXbaPcOTbXbaP",
  "cEXbaPcUTbXbaPcYTbXbaPbRXbeZHATbXbaPcUOXbaPdOTbXbaPcETbXbaPcUTbXbaPbRXbcYTbXbaPbRXbeCHATbXbaPc",
  "UOTbXbaPdOTbXbaPcETbXbaPcUXbaPbRXbcYTbXbaPbRXbeRRAXbbUOXbcOTbXbaPcETbXbaPcUTbXbaPbRXbcYTbXbaPb",
  "RXbeNRATbXbaPcOXbaPcETbXbaPcUTbXbaPbRXbcYTbXbaPbRXbeSHATbXbaPcUOXbaPdOTbXbaPcETbXbaPcUTbXbaPbR",
  "XbcYTbXbaPbRXbeRATbXbaPcUOXbaPdOTbXbaPcEXbaPcUTbXbaPbRXbcYTbXbaPbRXbdJITbXbaPbETbXbaPdUOTbXbaP",
  "dOTbXbaPcUTbXbaPbRXbcYTbXbaPbRXbdQITbXbaPbETbXbaPdUOTbXbaPdOTbXbaPcUTbXbaPbRXbcYTbXbaPbRXbdJJI",
  "TbXbaPbETbXbaPdUOXbaPdOTbXbaPcUTbXbaPbRXbcYTbXbaPeNJITbXbaPbETbXbaPdUOXbcOTbXbaPcUXbaPbRXbcYTb",
  "XbaPbRXbdYITbXbaPbETbXbaPdUOXbaPdOTbXbaPcUTbXbaPeXITbXbaPbETbXbaPdUOXbcOTbXbaPcYTbXbaPbRXbdYIT",
  "bXbaPbETbXbaPdUOTbXbaPdOTbXbaPcUTbXbaPbRXbcYTbXbaPbRXb@a490@mRADICAL QOTdLIcKITdNYIPeCYPdSSIdG",
  "GOPdEPdMIcHXITeLYRdBBUTeMOPdYOcPUTdHXUOeTATdGAcZUPdCYTdDDUReBURdGGUOeNYOPeTUcOPcJJUTeZOTdPYTdH",
  "MOdYITdVURdSHYdVEPdZAcJOcNZUPeJJYdGOTdJJIEeWOcDUcSHUReLIEdCYbUOPdIPdHXOPeSHATeZURdSHOPeCHEdZZI",
  "ETfNBIEeKE@a4d0@nLISU !BAcPAbHAdDAcTAbHAdGAcKAbHAdJAcCAbHAdDZAdTSAbHAeMAcNAcLAcSAcZHAcAcNGAdHA",
  "cXAcHHAdFAcWAcSHAdYAcGHAdAaEcEaUcIbObUaEbHcOEcTONE MYA TIgNA POfMYA CYAdBOcNAcJEUtPUNCTUATION ",
  "COMMAfFULL STOPzbVAI _EEaNdHEEdWEEaNePEEdBHEEdEEdMBEEeKPEEeMGBEEfGBEEeFEEdVEEdTEEcHEEeDHEEcHEE",
  "fLEEdREEdDEEdNDEEeSEEcHEEeZEEcHEEeCEEdJEEdNJEEeYEEdKEEdNGGEEfGEEdMEEdNEEcYEEeIaNcHIaNdWIaNdPIc",
  "BHIcIcMBIdKPIdMGBIeGBIdFIcVIcTIbHIdDHIbHIeLIcRIcDIcNDIdSIbHIdZIbHIdCIcJIcNJIdYIcKIcNGGIeGIcMIc",
  "NIbYIdAaNcNGANeHAaNdWAaNdPAcBHAcAcMBAdKPAaNeMGBAeGBAdFAcVAcTAbHAdDHAbHAeLAcRAcDAcNDAdSAbHAdZAb",
  "HAdCAcJAcNJAdYAcKAaNdNGGAeGAcMAcNAbYAdOOaNdHOOdWOOaNePOOdBHOOdOOdMBOOeKPOOeMGBOOfGBOOeFOOdVOOd",
  "TOOcHOOeDHOOcHOOfLOOdROOdDOOdNDOOeSOOcHOOeZOOcHOOeCOOdJOOdNJOOeYOOdKOOdNGGOOfGOOdMOOdNOOcYOOeU",
  "aNcHUaNdWUaNdPUcBHUcUcMBUdKPUdMGBUeGBUdFUcVUcTUbHUdDHUbHUeLUcRUcDUcNDUdSUbHUdZUbHUdCUcJUcNJUdY",
  "UcKUcNGGUeGUcMUcNUbYUdOaNcNGONeHOaNdWOaNdPOcBHOcOcMBOdKPOdMGBOeGBOaNeFOcVOcTObHOdDHObHOeLOcROc",
  "DOcNDOdSObHOdZObHOdCOcJOcNJOdYOcKOcNGGOeGOcMOcNObYOdEaNcNGENeHEaNdWEaNdPEcBHEcEcMBEdKPEaNeMGBE",
  "eGBEaNeFEcVEcTEbHEdDHEbHEeLEcREcDEcNDEdSEbHEdZEbHEdCEcJEcNJEdYEcKEcNGGEaNfGEaNdMEcNEbYEcGcLENG",
  "THENERtCOMMAfFULL STOPjQUESTION?n_NDOLE FAcKAcSOOqMBOL FEENGfKEENGfTINGeNIIdBANGeFAAdTAAdDANGd",
  "OONGfKUNGeTONGeDO-OeJONGlDIGIT ZEROeONEdTWOcHREEfFOURdIVEeSIXcEVENfEIGHTfNINEk_NDOLE MAcDO@a64",
  "0@vCYRILLIC $!ZEMLYAv%!ZEMLYAt$!DZELOu%!DZELOs$!REVERSED DZEzc%!REVERSED DZEza$!IOTAt%!IOTAr$!",
  "DJERVu%!DJERVs$!MONOGRAPH UKzc%!MONOGRAPH UKza$!BROAD OMEGAzb%!BROAD OMEGAy$!NEUTRAL YERzb%!NE",
  "UTRAL YERy$!YERU#BACK YERzi%!YERU#BACK YERzg$!IOTIFIED YATzc%!IOTIFIED YATza$!REVERSED YUzb%!R",
  "EVERSED YUy$!IOTIFIED Aza%!IOTIFIED Ax$!CLOSED LITTLE YUSzh%!CLOSED LITTLE YUSzf$!BLENDED YUSz",
  "b%!BLENDED YUSy$!IOTIFIED CLOSED LITTLE YUSzq%!IOTIFIED CLOSED LITTLE YUSzo$!YNr%!YNp$!REVERSE",
  "D TSEzc%!REVERSED TSEza$!SOFT DEw%!SOFT DEu$!SOFT ELw%!SOFT ELu$!SOFT EMw%!SOFT EMu$!MONOCULAR",
  " Ozb%!MONOCULAR Oy$!BINOCULAR Ozb%!BINOCULAR Oy$!:MONOCULAR Ozi%!:MONOCULAR Ozg!MULTIOCULAR Oz",
  "dOMBINING CYRILLIC VZMETfTEN MILLIONS.rHUNDRED MILLIONS.vTHOUSAND MILLIONS.zqSLAVONIC ASTERISK",
  "rCOMBINING CYRILLIC !UKRAINIAN IEmIbYIcUbHARD.jYERUeSOFT.jOMEGAmKAVYKAgPAYEROKzaYRILLIC KAVYKA",
  "gPAYEROKh$!DWEs%!DWEq$!DZWEt%!DZWEr$!ZHWEt%!ZHWEr$!CCHEt%!CCHEr$!DZZEt%!DZZEr$!TE#MIDDLE HOOKz",
  "j%!TE#MIDDLE HOOKzh$!TWEs%!TWEq$!TSWEt%!TSWEr$!TSSEt%!TSSEr$!TCHEt%!TCHEr$!HWEs%!HWEq$!SHWEt%!",
  "SHWEr$!:Ox%!:Ov$!CROSSED Oy%!CROSSED OzgMODIFIER !CYRILLIC HARD.jSOFT.zjCOMBINING CYRILLIC !EF",
  "cIOTIFIED EzlBAMUM !AbKAcUbKUcEEcREEdTAEdObNYIdIbLAcPAcRIIbEEeLEEEEfMEEEEfTAAdNDAAdJAEMfMbSUUd",
  "MUcSHIIdIbHEUXeEUXeKYEEdETdNUAEcbJUAEfYOQdSHUdYUQcAcNSHAeKEUXePEUXeNJEEdTEEePUEdWUEdPEEdFEEdRU",
  "cLUcMIcNIcREUXdAEdKENdNGKWAENfGAcAdSHOdPUAEeFUbOMdWAcNAcLIcPIcLOQdKOcMBENeRENdMENcAcTIcKIcMObB",
  "AAeTETdKPAdTENdNTUUeSAMBAfFAAMAEgKOVUUdGHOMnCOMBINING? KOQNDONhTUKWENTISyNJAEMLIhFULL STOPjCOL",
  "ONdMMAfSEMICOLONjQUESTION?@a700@tMODIFIER !CHINESE TONE YIN PINGhANG PINGiIN SHANGiANG SHANGjI",
  "N QUfANG QUgIN RUfANG RUuEXTRA-HIGH DOTTED TONE BARzbHIGH DOTTED TONE BARuMID DOTTED TONE BARt",
  "LOW DOTTED TONE BARtEXTRA-LOW DOTTED TONE BARtHIGH DOTTED LEFT-STEM TONE BARzlHIGH DOTTED LEFT",
  "-STEM TONE BARzfMID DOTTED LEFT-STEM TONE BARzeLOW DOTTED LEFT-STEM TONE BARzeEXTRA-LOW DOTTED",
  " LEFT-STEM TONE BARzeHIGH LEFT-STEM TONE BARzeHIGH LEFT-STEM TONE BARxMID LEFT-STEM TONE BARwL",
  "OW LEFT-STEM TONE BARwEXTRA-LOW LEFT-STEM TONE BARzdDOT |BARmSLASHf(BARsLOWER ]CORNER ANGLEyRA",
  "ISED UP ^iDOWN ^kEXCLAMATION?qINVERTED EXCLAMATION?zhLOW INVERTED EXCLAMATION?zeSTRESS&HIGH TO",
  "NEjLOW TONEzkLATIN $!EGYPTOLOGICAL ALEFzi%!EGYPTOLOGICAL ALEFzg$!EGYPTOLOGICAL AINzh%!EGYPTOLO",
  "GICAL AINzf$!HENGt%!HENGr$!TZr%!TZp$!TRESILLOx%!TRESILLOv$!CUATRILLOy%!CUATRILLOw$!CUATRILLO#C",
  "OMMAzk%!CUATRILLO#COMMAzi!%$FbSw$!AAr%!AAp$!AOr%!AOp$!AUr%!AUp$!AVr%!AVp$!AV#(BARzm%!AV#(BARzk",
  "$!AYr%!AYp$!REVERSED C#DOTzj%!REVERSED C#DOTzh$!K#STROKEzd%!K#STROKEzb$!K#DIAGONAL STROKEzm%!K",
  "#DIAGONAL STROKEzk$!K#STROKE&DIAGONAL STROKEzx%!K#STROKE&DIAGONAL STROKEzv$!BROKEN Lx%!BROKEN ",
  "Lv$!L#HIGH STROKEzi%!L#HIGH STROKEzg$!O#LONG STROKE OVERLAYzq%!O#LONG STROKE OVERLAYzo$!O#LOOP",
  "zb%!O#LOOPy$!OOr%!OOp$!P#STROKE THROUGH DESCENDERzv%!P#STROKE THROUGH DESCENDERzt$!P#FLOURISHz",
  "f%!P#FLOURISHzd$!P#SQUIRREL TAILzk%!P#SQUIRREL TAILzi$!Q#STROKE THROUGH DESCENDERzv%!Q#STROKE ",
  "THROUGH DESCENDERzt$!Q#DIAGONAL STROKEzm%!Q#DIAGONAL STROKEzk$!R ROTUNDAy%!R ROTUNDAw$!RUM ROT",
  "UNDAzb%!RUM ROTUNDAy$!V#DIAGONAL STROKEzm%!V#DIAGONAL STROKEzk$!VYr%!VYp$!VISIGOTHIC Zzc%!VISI",
  "GOTHIC Zza$!THORN#STROKEzh%!THORN#STROKEzf$!THORN#STROKE THROUGH DESCENDERzza%!THORN#STROKE TH",
  "ROUGH DESCENDERzx$!VENDt%!VENDr$!ETr%!ETp$!ISr%!ISp$!CONs%!CONwMODIFIER !USsLATIN %!DUMdLUMdMU",
  "MdNUMdRUMq!%$RUMy%!TUMdUMp$!INSULAR Dy%!INSULAR Dw$!INSULAR Fy%!INSULAR Fw$!INSULAR GjTURNED I",
  "NSULAR Gzg%!TURNED INSULAR Gze$!TURNED Lx%!TURNED Lv$!INSULAR Ry%!INSULAR Rw$!INSULAR Sy%!INSU",
  "LAR Sw$!INSULAR Ty%!INSULAR TzdMODIFIER !LOW CIRCUMFLEX ACCENTvCOLONfSHORT EQUALS.ziLATIN $!SA",
  "LTILLOx%!SALTILLOv$!TURNED Hx%!L#RETROFLEX HOOK&BELTzs!SINOLOGICAL DOTw$!N#DESCENDERzg%!N#DESC",
  "ENDERze$!C#BARza%!C#BARdPALATAL HOOKtH#PALATAL HOOKzh$!B#FLOURISHzf%!B#FLOURISHzd$!F#STROKEzd%",
  "!F#STROKEzb$!VOLAPUK AEza%!VOLAPUK AEx$!VOLAPUK OEza%!VOLAPUK OEx$!VOLAPUK UEza%!VOLAPUK UEx$!",
  "G#OBLIQUE STROKEzl%!G#OBLIQUE STROKEzj$!K#OBLIQUE STROKEzl%!K#OBLIQUE STROKEzj$!N#OBLIQUE STRO",
  "KEzl%!N#OBLIQUE STROKEzj$!R#OBLIQUE STROKEzl%!R#OBLIQUE STROKEzj$!S#OBLIQUE STROKEzl%!S#OBLIQU",
  "E STROKEzj$!H#HOOKlREVERSED OPEN EpSCRIPT GiL#BELTl%$Izf!%$Qw$!TURNED KbTiJ#CROSSED-TAILtCHIdB",
  "ETAt%!BETAr$!OMEGAu%!OMEGAs$!U#STROKEzd%!U#STROKEzb$!GLOTTAL Ay%!GLOTTAL Aw$!GLOTTAL Iy%!GLOTT",
  "AL Iw$!GLOTTAL Uy%!GLOTTAL Uw$!OLD POLISH Ozc%!OLD POLISH Oza$!ANGLICANA Wzb%!ANGLICANA Wy$!C#",
  "PALATAL HOOKtS#HOOKlZ#PALATAL HOOKtD#SHORT STROKE OVERLAYzr%!D#SHORT STROKE OVERLAYzp$!S#SHORT",
  " STROKE OVERLAYzr%!S#SHORT STROKE OVERLAY@a7d0@zp$!CLOSED INSULAR Gzg%!CLOSED INSULAR G@a7d3@q",
  ":THORN@a7d5@fWYNNy$!MIDDLE SCOTS Sze%!MIDDLE SCOTS Szc$!SIGMOID Sy%!SIGMOID S@a7f2@zdMODIFIER ",
  "!$CbFbQzaLATIN $!REVERSED HALF Hzf%!REVERSED HALF HzdEPIGRAPHIC !SIDEWAYS IzjMODIFIER !$H#STRO",
  "KEv%LIGATURE OEziLATIN !%$TURNED MzeEPIGRAPHIC !REVERSED FbPkINVERTED Mj LONGAhARCHAIC MziSYLO",
  "TI NAGRI !AbIiSIGN DVISVARAn!UbEbOiSIGN HASANTAm!KObHOdGObHOkSIGN ANUSVARAn!CObHOdJObHOdTTObHO",
  "eDDObHOeTObHOdDObHOdNOcPObHOdBObHOdMOcROcLOcRROdSOcHOjVOWEL. AbIbUbEbOOnPOETRY?-1b2b3b4nSIGN A",
  "LTERNATE HASANTA@a830@zkNORTH INDIC FRACTION ONE QUARTERhHALFiTHREE QUARTERSoONE SIXTEENTHjEIG",
  "HTHkTHREE SIXTEENTHSzaQUARTER?mPLACEHOLDER?qRUPEE?kQUANTITY?@a840@zaPHAGS-PA !KAbHAdGAcNGAdCAb",
  "HAdJAcNYAdTAbHAdDAcNAcPAbHAdBAcMAcTSAbHAeDZAdWAcZHAcAc%AhYAcRAcLAcSHAcAcHAcAbIbUbEbObQAcXAcFAc",
  "GGAdEEjSUBJOINED !WAcYAt!TTAbHAeDDAdNNAdALTERNATE YAmVOICELESS SHAiD HAjASPIRATED FAtSUBJOINED",
  " !RArPERFIXED !RAu!CANDRABINDUsSINGLE HEAD?q:HEAD?qMARK SHADe:SHAD@a880@zaSAURASHTRA. ANUSVARA",
  "iVISARGAm!AaAcIaIcUaUcVOCALIC RaRcLaLkEaEcAIcOaOcAUcKAbHAdGAbHAdNGAdCAbHAdJAbHAdNYAdTTAbHAeDDA",
  "bHAeNNAdTAbHAdDAbHAdNAcPAbHAdBAbHAdMAcYAcRAcLAcVAcSHAcSAcAcHAcLLAkCONSONANT. HAARUuVOWEL. AAcI",
  "aIcUaUcVOCALIC RaRcLaLkEaEcAIcOaOcAUnSIGN VIRAMAgCANDRABINDU@a8ce@qDANDAeOUBLE DANDAlIGIT ZERO",
  "eONEdTWOcHREEfFOURdIVEeSIXcEVENfEIGHTfNINE@a8e0@vCOMBINING DEVANAGARI DIGIT ZEROeONEdTWOcHREEf",
  "FOURdIVEeSIXcEVENfEIGHTfNINEk!AbUbKAcNAcPAcRAcVIjSIGN AVAGRAHAzjDEVANAGARI. SPACING CANDRABIND",
  "UtCANDRABINDU VIRAMAs:CANDRABINDU VIRAMAzaCANDRABINDU TWOcHREEfAVAGRAHAuPUSHPIKAnGAP FILLERkCA",
  "RETfHEADSTROKEkSIGN SIDDHAMmJAIN OMh!AYjVOWEL. AYyKAYAH LI DIGIT ZEROeONEdTWOcHREEfFOURdIVEeSI",
  "XcEVENfEIGHTfNINEk!KAbHAdGAcNGAdSAbHAdZAcNYAdTAcHTAdNAcPAbHAdMAcDAcBAcRAcYAcLAcWAcTHAdHAcVAcCA",
  "cAbOEcIbOOjVOWEL UEcEbUbEEcOhTONE PLOPHUgCALYAa PLOPHUrSIGN CWIdSHYAsREJANG !KAcGAcNGAdTAcDAcN",
  "AcPAcBAcMAcCAcJAcNYAdSAcRAcLAcYAcWAcHAcMBAdNGGAdDAcYJAeAiVOWEL. IbUbEbAIcObAUcEUbAnCONSONANT. ",
  "NGbbRbHqVIRAMA@a95f@gSECTION?tHANGUL CHOSEONG TIKEUT-MIEUMfPIEUPfSIOSeCIEUCmRIEUL-KIYEOKgSSANG",
  "KIYEOKlTIKEUTgSSANGTIKEUTlMIEUMfPIEUPfSSANGPIEUPkKAPYEOUNPIEUPnSIOSeCIEUCfKHIEUKHnMIEUM-KIYEOK",
  "gTIKEUTgSIOSkPIEUP-SIOS-THIEUTHmKHIEUKHhHIEUHlSSANGSIOS-PIEUPpIEUNG-RIEULfHIEUHlSSANGCIEUC-HIE",
  "UHlTHIEUTHmPHIEUPH-HIEUHnHIEUH-SIOSkSSANGYEORINHIEUH@a980@zhJAVANESE. PANYANGGAjCECAKfLAYARfWI",
  "GNYANm!AbI KAWIfaIcUbPA CEREKiNGA LELETa RASWADIrEbAIcObKAa SASAKfMURDAiGAa MURDAiNGAdCAa MURD",
  "AiJAcNYA MURDAjJA MAHAPRANAmNYAdTTAa MAHAPRANAnDDAa MAHAPRANAnNA MURDAiTAa MURDAiDAa MAHAPRANA",
  "mNAcPAa MURDAiBAa MURDAiMAcYAcRAa AGUNGiLAcWAcSA MURDAeAHAPRANAkcHAjSIGN CECAK TELUpVOWEL. TAR",
  "UNGfOLONGgWULUa MELIKkSUKUa MENDUTlTALINGgDIRGA MUREkPEPETqCONSONANT. KERETfPENGKALhCAKRAuPANG",
  "KONh[RERENGGANo]RERENGGANpPADA ANDAPfMADYAfLUHURfWINDUfPANGKAThLINGSAfUNGSIgADEGa ADEGjPISELEH",
  "mTURNED PADA PISELEH@a9cf@tPANGRANGKEPlDIGIT ZEROeONEdTWOcHREEfFOURdIVEeSIXcEVENfEIGHTfNINE@a9",
  "de@kPADA TIRTA TUMETESnISEN-ISENxMYANMAR !SHAN GHAdCHAdJHAdNNAdBHApSIGN SHAN SAWnMODIFIER !SHA",
  "N REDUPLICATIONzj!TAI LAING NYAdFAcGAbHAdJAbHAdDDAbHAeNNAuTAI LAING DIGIT ZEROeONEdTWOcHREEfFO",
  "URdIVEeSIXcEVENfEIGHTfNINEu!TAI LAING LLAdDAbHAdBAbHA@aa00@zdCHAM !AbIbUbEbAIcObKAbHAdGAbHAdNG",
  "UEcAdCHAbHAeJAbHAdNHUEcAbJAeTAbHAdDAbHAdNUEcAcDDAdPAbPAcHAdBAbHAdMUEcAcBBAdYAcRAcLAcVAcSSAcAcH",
  "AjVOWEL. AAcIaIcEIcUbOEbbAIbUcUEnCONSONANT. YAcRAcLAcWA@aa40@r!FINAL KbGbNGpCONSONANT. FINAL N",
  "Gx!FINAL CHcTbNbPbYbRbLbSSpCONSONANT. FINAL MbH@aa50@wDIGIT ZEROeONEdTWOcHREEfFOURdIVEeSIXcEVE",
  "NfEIGHTfNINE@aa5c@kPUNCTUATION SPIRALgDANDAeOUBLE DANDAmTRIPLE DANDAzeMYANMAR !KHAMTI GAcCAbHA",
  "dJAbHAdNYAdTTAbHAeDDAbHAdHAdNAcSAcHAbHAdFAqMODIFIER !KHAMTI REDUPLICATIONzl!KHAMTI XAcZAcRApOG",
  "OGRAM KHAMTI OAYdQNcHMs~AITON EXCLAMATIONlONEdTWOq!AITON RApSIGN PAO KAREN TONEoTAI LAING TONE",
  "-2b5v!SHWE PALAUNG CHAdSHAzgTAI VIET !LOW KOgHIGH KOhLOW KHOhHIGH KHOiLOW KHHOiHIGH KHHOjLOW G",
  "OgHIGH GOhLOW NGOhHIGH NGOiLOW COgHIGH COhLOW CHOhHIGH CHOiLOW SOgHIGH SOhLOW NYOhHIGH NYOiLOW",
  " DOgHIGH DOhLOW TOgHIGH TOhLOW THOhHIGH THOiLOW NOgHIGH NOhLOW BOgHIGH BOhLOW POgHIGH POhLOW P",
  "HOhHIGH PHOiLOW FOgHIGH FOhLOW MOgHIGH MOhLOW YOgHIGH YOhLOW ROgHIGH ROhLOW LOgHIGH LOhLOW VOg",
  "HIGH VOhLOW HOgHIGH HOhLOW OfHIGH OnMAI KANGiVOWEL AAcIbUEbbEbOhMAI KHITiVOWEL IAcUEAcAcAUEcYb",
  "NbMiTONE MAI EKcNUENGfTHOdSONG@aadb@n~KONdNUENGfSAMdHO HOIgKOI KOIxMEETEI MAYEK !EbObCHAdNYAdT",
  "TAbHAeDDAbHAeNNAdSHAcSAkVOWEL. IIcUUcAAIcUbAUoCHEIKHANiAHANG KHUDAMlNJIe_REPETITION?yWORD REPE",
  "TITION?uVOWEL. VISARGArIRAMA@ab01@tETHIOPIC _TTHUbIbAAcEEbbO@ab09@eDDHUbIbAAcEEbbO@ab11@dZUbIb",
  "AAcEEbbO@ab20@dCCHHAbUbIbAAcEEbbO@ab28@fBBAbUbIbAAcEEbbO@ab30@vLATIN %!BARRED ALPHAmA REVERSED",
  "-SCHWAqBLACK!EmARRED EiE#FLOURISHpLENIS FhSCRIPT G#CROSSED-TAILzbL#INVERTED LAZY Sp:MIDDLE TIL",
  "DEtMIDDLE RINGsM#CROSSED-TAILtN#CROSSED-TAILtENG#CROSSED-TAILvBLACK!Oa#STROKEzaOPEN O#STROKEsI",
  "NVERTED OElTURNED OE#STROKEg(STROKEy OPEN-Oa#STROKEzcSTIRRUP Rw!%$R#]LEGzm%!R WITHOUT HANDLEq:",
  "RiR#CROSSED-TAILt:R#CROSSED-TAILzbSCRIPT Ra#RINGsBASELINE ESHmU#SHORT ]LEGuBAR#SHORT ]LEGzaIcT",
  "URNED UIjU#[HOOKqCHIa#LOW ]RINGk[SERIFxX#LOW ]RINGmNG [LEGa&LOW ]RINGsWITH SERIFzgY#SHORT ]LEG",
  "zqMODIFIER BREVE#INVERTED BREVEza!%HENGeL#INVERTED LAZY SpMIDDLE TILDEtU#[HOOKznLATIN %!SAKHA ",
  "YATjIOTIFIED EkOPEN OEhUOcINVERTED ALPHAziGREEK !%$OMEGAzhLATIN %!DZ DIGRAPH#RETROFLEX HOOKzfT",
  "S DIGRAPH#RETROFLEX HOOKzeURNED R#MIDDLE TILDEzuMODIFIER !%TURNED Wo[TACKj]TACK@ab70@zbCHEROKE",
  "E %!AbEbIbObUbVbGAcKAcGEbIbObUbVcHAbEbIbObUbVcLAbEbIbObUbVcMAbEbIbObUcNAcHNAdNAHcEbIbObUbVcQUA",
  "bEbIbObUbVdSAbaEbIbObUbVcDAcTAcDEcTEcDIcTIcDObUbVbLAdTLAbEbIbObUbVcSAbEbIbObUbVdWAbEbIbObUbVcY",
  "AyMEETEI MAYEK !KOKdSAMdLAIdMITdPAcNAcCHILeTILdKHOUeNGOUeTHOUeWAIdYANGeHUKdUNcIbPHAMeATIYAfGOK",
  "dJHAMeRAIdBAcJILdDILdGHOUeDHOUeBHAMeKOK LONSUMkLAI LONSUMkMIT LONSUMkPA LONSUMjNA LONSUMjTIL L",
  "ONSUMkNGOU LONSUMlI LONSUMpVOWEL. ONAPeINAPeANAPeYENAPfSOUNAPgUNAPeCHEINAPhNUNGpCHEIKHEIiLUM I",
  "YEKiAPUN IYEK@abf0@jDIGIT ZEROeONEdTWOcHREEfFOURdIVEeSIXcEVENfEIGHTfNINE@d7b0@xHANGUL JUNGSEON",
  "G O-YEOdO-IfYO-AaEcEOfU-YEOdI-IfYU-AEcOeEU-AbEObbOeI-YA-OcEcEObcO-IdYObUcIdARAEA-AbE@d7cb@qONG",
  "SEONG NIEUN-RIEULfCHIEUCHnSSANGTIKEUTa-PIEUPrTIKEUT-PIEUPfSIOSa-KIYEOKlCIEUCeHIEUCHhTHIEUTHoRI",
  "EUL-SSANGKIYEOKlKIYEOK-HIEUHsSSANGRIEUL-KHIEUKHsRIEUL-MIEUM-HIEUHlPIEUP-TIKEUTgPHIEUPHnYESIEUN",
  "GgORINHIEUH-HIEUHxKAPYEOUNRIEULnMIEUM-NIEUNfSSANGNIEUNqSSANGMIEUMkMIEUM-PIEUP-SIOSkCIEUClPIEUP",
  "-TIKEUTgRIEUL-PHIEUPHnMIEUMlSSANGPIEUPkPIEUP-SIOS-TIKEUTlCIEUCeHIEUCHnSIOS-MIEUMfKAPYEOUNPIEUP",
  "rSANGSIOS-KIYEOKgTIKEUTpIOS-PANSIOShCIEUCeHIEUCHhTHIEUTHhHIEUHkPANSIOS-PIEUPfKAPYEOUNPIEUPvYES",
  "IEUNG-MIEUMfHIEUHoCIEUC-PIEUPfSSANGPIEUPqSSANGCIEUCkPHIEUPH-SIOSeTHIEUTH@f900@zhCJK COMPATIBIL",
  "ITY IDEOGRAPH-F900b1b2b3b4b5b6b7b8b9bAbBbCbDbEbFc10b1b2b3b4b5b6b7b8b9bAbBbCbDbEbFc20b1b2b3b4b5",
  "b6b7b8b9bAbBbCbDbEbFc30b1b2b3b4b5b6b7b8b9bAbBbCbDbEbFc40b1b2b3b4b5b6b7b8b9bAbBbCbDbEbFc50b1b2b",
  "3b4b5b6b7b8b9bAbBbCbDbEbFc60b1b2b3b4b5b6b7b8b9bAbBbCbDbEbFc70b1b2b3b4b5b6b7b8b9bAbBbCbDbEbFc80",
  "b1b2b3b4b5b6b7b8b9bAbBbCbDbEbFc90b1b2b3b4b5b6b7b8b9bAbBbCbDbEbFcA0b1b2b3b4b5b6b7b8b9bAbBbCbDbE",
  "bFcB0b1b2b3b4b5b6b7b8b9bAbBbCbDbEbFcC0b1b2b3b4b5b6b7b8b9bAbBbCbDbEbFcD0b1b2b3b4b5b6b7b8b9bAbBb",
  "CbDbEbFcE0b1b2b3b4b5b6b7b8b9bAbBbCbDbEbFcF0b1b2b3b4b5b6b7b8b9bAbBbCbDbEbFdA00b1b2b3b4b5b6b7b8b",
  "9bAbBbCbDbEbFc10b1b2b3b4b5b6b7b8b9bAbBbCbDbEbFc20b1b2b3b4b5b6b7b8b9bAbBbCbDbEbFc30b1b2b3b4b5b6",
  "b7b8b9bAbBbCbDbEbFc40b1b2b3b4b5b6b7b8b9bAbBbCbDbEbFc50b1b2b3b4b5b6b7b8b9bAbBbCbDbEbFc60b1b2b3b",
  "4b5b6b7b8b9bAbBbCbD@fa70@c70b1b2b3b4b5b6b7b8b9bAbBbCbDbEbFc80b1b2b3b4b5b6b7b8b9bAbBbCbDbEbFc90",
  "b1b2b3b4b5b6b7b8b9bAbBbCbDbEbFcA0b1b2b3b4b5b6b7b8b9bAbBbCbDbEbFcB0b1b2b3b4b5b6b7b8b9bAbBbCbDbE",
  "bFcC0b1b2b3b4b5b6b7b8b9bAbBbCbDbEbFcD0b1b2b3b4b5b6b7b8b9@fb00@zhLATIN %LIGATURE FFbIbLbFIbLdLO",
  "NG S TiST@fb13@xARMENIAN %LIGATURE MEN NOWdECHdINIhVEW NOWhMEN XEH@fb1d@zgHEBREW !YOD#HIRIQvPO",
  "INT JUDEO-SPANISH VARIKAzbLIGATURE YIDDISH YOD YOD PATAHzeETTER ALTERNATIVE AYINqWIDE ALEFeDAL",
  "ETfHEcKAFdLAMEDfFINAL MEMjRESHeTAViALTERNATIVE PLUS.vSHIN#SHIN DOThIN DOThDAGESH&SHIN DOThIN D",
  "OTzdALEF#PATAHfQAMATSgMAPIQpBET#DAGESHpGIMEL#DAGESHrDALET#DAGESHrHE#MAPIQnVAV#DAGESHpZAYIN#DAG",
  "ESH@fb38@rTET#DAGESHpYOD#DAGESHpFINAL KAF#DAGESHvKAF#DAGESHpLAMED#DAGESH@fb3e@rMEM#DAGESH@fb40",
  "@pNUN#DAGESHpSAMEKH#DAGESH@fb43@sFINAL PE#DAGESHuPE#DAGESH@fb46@oTSADI#DAGESHrQOF#DAGESHpRESH#",
  "DAGESHqSHIN#DAGESHqTAV#DAGESHpVAV#HOLAMoBET#RAFEnKAF#RAFEnPE#RAFEsIGATURE ALEF LAMEDzbARABIC !",
  "ALEF WASLA =*nFINAL*vBEEH =*nFINAL*kINITIAL*mMEDIAL*qPEH =*nFINAL*kINITIAL*mMEDIAL*pBEHEH =*nF",
  "INAL*kINITIAL*mMEDIAL*rTTEHEH =*nFINAL*kINITIAL*mMEDIAL*rEHEH =*nFINAL*kINITIAL*mMEDIAL*qTEH =",
  "*nFINAL*kINITIAL*mMEDIAL*qVEH =*nFINAL*kINITIAL*mMEDIAL*pPEHEH =*nFINAL*kINITIAL*mMEDIAL*rDYEH",
  " =*nFINAL*kINITIAL*mMEDIAL*qNYEH =*nFINAL*kINITIAL*mMEDIAL*qTCHEH =*nFINAL*kINITIAL*mMEDIAL*mE",
  "H =*nFINAL*kINITIAL*mMEDIAL*tDDAHAL =*nFINAL*qAHAL =*nFINAL*pUL =*nFINAL*nDAL =*nFINAL*pJEH =*",
  "nFINAL*oRREH =*nFINAL*pKEHEH =*nFINAL*kINITIAL*mMEDIAL*rGAF =*nFINAL*kINITIAL*mMEDIAL*oUEH =*n",
  "FINAL*kINITIAL*mMEDIAL*qNGOEH =*nFINAL*kINITIAL*mMEDIAL*qOON GHUNNA =*nFINAL*wRNOON =*nFINAL*k",
  "INITIAL*mMEDIAL*rHEH#YEH+ =*nFINAL*zaGOAL =*nFINAL*kINITIAL*mMEDIAL*qDOACHASHMEE =*nFINAL*kINI",
  "TIAL*mMEDIAL*zcYEH BARREE =*nFINAL*kWITH HAMZA+ =*nFINAL*zu~DOT+fBELOWjTWO DOTS+fBELOWnHREE DO",
  "TS+fBELOWfPOINTING DOWNWARDS+fBELOWzkFOUR DOTS+fBELOWp:|BAR,zaTWO DOTS VERTICALLY+fBELOWzaRING",
  "e%TAH+fBELOWpWASLA+@fbd3@s!NG =*nFINAL*kINITIAL*mMEDIAL*oU =*nFINAL*mOE =*nFINAL*nYU =*nFINAL*",
  "nU#HAMZA+ =*zhVE =*nFINAL*nKIRGHIZ OE =*nFINAL*nYU =*nFINAL*vE =*nFINAL*kINITIAL*mMEDIAL*nUIGH",
  "UR KAZAKH KIRGHIZ ALEF MAKSURA INITIAL*mMEDIAL*zzcIGATURE YEH#HAMZA+#ALEF =*nFINAL*oE =*nFINAL",
  "*nWAW =*nFINAL*oU =*nFINAL*mOE =*nFINAL*nYU =*nFINAL*nE =*nFINAL*kINITIAL*zpUIGHUR KIRGHIZ YEH",
  "#HAMZA+#ALEF MAKSURA =*nFINAL*kINITIAL*zzyETTER FARSI YEH =*nFINAL*kINITIAL*mMEDIAL*zcIGATURE ",
  "YEH#HAMZA+#JEEM =*sHAH =*rMEEM =*sALEF MAKSURA =*zbYEH =*zsBEH#JEEM =*sHAH =*rKHAH =*sMEEM =*s",
  "ALEF MAKSURA =*zbYEH =*zbTEH#JEEM =*sHAH =*rKHAH =*sMEEM =*sALEF MAKSURA =*zbYEH =*zaHEH#JEEM ",
  "=*sMEEM =*sALEF MAKSURA =*zbYEH =*zcJEEM#HAH =*rMEEM =*zdHAH#JEEM =*sMEEM =*zcKHAH#JEEM =*sHAH",
  " =*rMEEM =*zdSEEN#JEEM =*sHAH =*rKHAH =*sMEEM =*zcAD#HAH =*rMEEM =*zcDAD#JEEM =*sHAH =*rKHAH =",
  "*sMEEM =*zcTAH#HAH =*rMEEM =*zcZAH#MEEM =*zcAIN#JEEM =*sMEEM =*zcGHAIN#JEEM =*sMEEM =*zeFEH#JE",
  "EM =*sHAH =*rKHAH =*sMEEM =*sALEF MAKSURA =*zbYEH =*zbQAF#HAH =*rMEEM =*sALEF MAKSURA =*zbYEH ",
  "=*zbKAF#ALEF =*sJEEM =*sHAH =*rKHAH =*sLAM =*rMEEM =*sALEF MAKSURA =*zbYEH =*zbLAM#JEEM =*sHAH",
  " =*rKHAH =*sMEEM =*sALEF MAKSURA =*zbYEH =*zbMEEM#JEEM =*sHAH =*rKHAH =*sMEEM =*sALEF MAKSURA ",
  "=*zbYEH =*zcNOON#JEEM =*sHAH =*rKHAH =*sMEEM =*sALEF MAKSURA =*zbYEH =*zcHEH#JEEM =*sMEEM =*sA",
  "LEF MAKSURA =*zbYEH =*zbYEH#JEEM =*sHAH =*rKHAH =*sMEEM =*sALEF MAKSURA =*zbYEH =*zbTHAL#SUPER",
  "SCRIPT ALEF =*zpREH#SUPERSCRIPT ALEF =*zoALEF MAKSURA#SUPERSCRIPT ALEF =*zxSHADDA#DAMMATAN =*w",
  "KASRATAN =*wFATHA =*tDAMMA =*tKASRA =*tSUPERSCRIPT ALEF =*zrYEH#HAMZA+#REH FINAL*oZAIN FINAL*p",
  "MEEM FINAL*pNOON FINAL*pALEF MAKSURA FINAL*xYEH FINAL*zpBEH#REH FINAL*oZAIN FINAL*pMEEM FINAL*",
  "pNOON FINAL*pALEF MAKSURA FINAL*xYEH FINAL*xTEH#REH FINAL*oZAIN FINAL*pMEEM FINAL*pNOON FINAL*",
  "pALEF MAKSURA FINAL*xYEH FINAL*wHEH#REH FINAL*oZAIN FINAL*pMEEM FINAL*pNOON FINAL*pALEF MAKSUR",
  "A FINAL*xYEH FINAL*yFEH#ALEF MAKSURA FINAL*xYEH FINAL*xQAF#ALEF MAKSURA FINAL*xYEH FINAL*xKAF#",
  "ALEF FINAL*pLAM FINAL*oMEEM FINAL*pALEF MAKSURA FINAL*xYEH FINAL*xLAM#MEEM FINAL*pALEF MAKSURA",
  " FINAL*xYEH FINAL*xMEEM#ALEF FINAL*pMEEM FINAL*zaNOON#REH FINAL*oZAIN FINAL*pMEEM FINAL*pNOON ",
  "FINAL*pALEF MAKSURA FINAL*xYEH FINAL*yALEF MAKSURA#SUPERSCRIPT ALEF FINAL*zuYEH#REH FINAL*oZAI",
  "N FINAL*pMEEM FINAL*pNOON FINAL*pALEF MAKSURA FINAL*xYEH FINAL*oHAMZA+#JEEM INITIAL*rHAH INITI",
  "AL*qKHAH INITIAL*rMEEM INITIAL*rHEH INITIAL*zrBEH#JEEM INITIAL*rHAH INITIAL*qKHAH INITIAL*rMEE",
  "M INITIAL*rHEH INITIAL*zaTEH#JEEM INITIAL*rHAH INITIAL*qKHAH INITIAL*rMEEM INITIAL*rHEH INITIA",
  "L*yHEH#MEEM INITIAL*zcJEEM#HAH INITIAL*qMEEM INITIAL*zcHAH#JEEM INITIAL*rMEEM INITIAL*zbKHAH#J",
  "EEM INITIAL*rMEEM INITIAL*zcSEEN#JEEM INITIAL*rHAH INITIAL*qKHAH INITIAL*rMEEM INITIAL*zbAD#HA",
  "H INITIAL*qKHAH INITIAL*rMEEM INITIAL*zbDAD#JEEM INITIAL*rHAH INITIAL*qKHAH INITIAL*rMEEM INIT",
  "IAL*zbTAH#HAH INITIAL*zaZAH#MEEM INITIAL*zbAIN#JEEM INITIAL*rMEEM INITIAL*zbGHAIN#JEEM INITIAL",
  "*rMEEM INITIAL*zdFEH#JEEM INITIAL*rHAH INITIAL*qKHAH INITIAL*rMEEM INITIAL*zbQAF#HAH INITIAL*q",
  "MEEM INITIAL*zbKAF#JEEM INITIAL*rHAH INITIAL*qKHAH INITIAL*rLAM INITIAL*qMEEM INITIAL*zbLAM#JE",
  "EM INITIAL*rHAH INITIAL*qKHAH INITIAL*rMEEM INITIAL*rHEH INITIAL*zaMEEM#JEEM INITIAL*rHAH INIT",
  "IAL*qKHAH INITIAL*rMEEM INITIAL*zcNOON#JEEM INITIAL*rHAH INITIAL*qKHAH INITIAL*rMEEM INITIAL*r",
  "HEH INITIAL*zbHEH#JEEM INITIAL*rMEEM INITIAL*rSUPERSCRIPT ALEF INITIAL*znYEH#JEEM INITIAL*rHAH",
  " INITIAL*qKHAH INITIAL*rMEEM INITIAL*rHEH INITIAL*pAMZA+#MEEM MEDIAL*qHEH MEDIAL*zqBEH#MEEM ME",
  "DIAL*qHEH MEDIAL*yTEH#MEEM MEDIAL*qHEH MEDIAL*xHEH#MEEM MEDIAL*qHEH MEDIAL*zaSEEN#MEEM MEDIAL*",
  "qHEH MEDIAL*yHEEN#MEEM MEDIAL*qHEH MEDIAL*zbKAF#LAM MEDIAL*pMEEM MEDIAL*zaLAM#MEEM MEDIAL*zaNO",
  "ON#MEEM MEDIAL*qHEH MEDIAL*zaYEH#MEEM MEDIAL*qHEH MEDIAL*ySHADDA#FATHA MEDIAL*rDAMMA MEDIAL*rK",
  "ASRA MEDIAL*zeTAH#ALEF MAKSURA =*zbYEH =*zbAIN#ALEF MAKSURA =*zbYEH =*zbGHAIN#ALEF MAKSURA =*z",
  "bYEH =*zdSEEN#ALEF MAKSURA =*zbYEH =*zbHEEN#ALEF MAKSURA =*zbYEH =*zdHAH#ALEF MAKSURA =*zbYEH ",
  "=*zbJEEM#ALEF MAKSURA =*zbYEH =*zcKHAH#ALEF MAKSURA =*zbYEH =*zcSAD#ALEF MAKSURA =*zbYEH =*zbD",
  "AD#ALEF MAKSURA =*zbYEH =*zbSHEEN#JEEM =*sHAH =*rKHAH =*sMEEM =*sREH =*zcEEN#REH =*zbAD#REH =*",
  "zbDAD#REH =*zbTAH#ALEF MAKSURA FINAL*xYEH FINAL*xAIN#ALEF MAKSURA FINAL*xYEH FINAL*xGHAIN#ALEF",
  " MAKSURA FINAL*xYEH FINAL*zaSEEN#ALEF MAKSURA FINAL*xYEH FINAL*xHEEN#ALEF MAKSURA FINAL*xYEH F",
  "INAL*zaHAH#ALEF MAKSURA FINAL*xYEH FINAL*xJEEM#ALEF MAKSURA FINAL*xYEH FINAL*yKHAH#ALEF MAKSUR",
  "A FINAL*xYEH FINAL*ySAD#ALEF MAKSURA FINAL*xYEH FINAL*xDAD#ALEF MAKSURA FINAL*xYEH FINAL*xSHEE",
  "N#JEEM FINAL*pHAH FINAL*oKHAH FINAL*pMEEM FINAL*pREH FINAL*yEEN#REH FINAL*xAD#REH FINAL*xDAD#R",
  "EH FINAL*xSHEEN#JEEM INITIAL*rHAH INITIAL*qKHAH INITIAL*rMEEM INITIAL*zcEEN#HEH INITIAL*zaHEEN",
  "#HEH INITIAL*zcTAH#MEEM INITIAL*zbSEEN#JEEM MEDIAL*qHAH MEDIAL*pKHAH MEDIAL*zaHEEN#JEEM MEDIAL",
  "*qHAH MEDIAL*pKHAH MEDIAL*zcTAH#MEEM MEDIAL*zaZAH#MEEM MEDIAL*zaALEF#FATHATAN FINAL*k=*zxORNAT",
  "E [PARENTHESISq]PARENTHESISyARABIC LIGATURE RAHIMAHU ALLAAHnDI ALLAAHU ANHaAAcUMaAAdNNAuSALLAL",
  "LAAHU ALAYHI WA-AALIHzcALAYHI AS-SALAAMkM AS-SALAAMkAA AS-SALAAMn AS-SALAATU WAS-SALAAMzdQUDDI",
  "SA SIRRAHoSALLALLAHU ALAYHI WAAALIHEE WA-SALLAMzmALAYHAA AS-SALAAMrTABAARAKA WA-TAAALAAuRAHIMA",
  "HUM ALLAAHqTEH#JEEM#MEEM INITIAL*zcHAH#JEEM FINAL*kINITIAL*rMEEM INITIAL*zbKHAH#MEEM INITIAL*z",
  "cMEEM#JEEM INITIAL*rHAH INITIAL*qKHAH INITIAL*zlJEEM#MEEM#HAH FINAL*kINITIAL*zlHAH#MEEM#YEH FI",
  "NAL*oALEF MAKSURA FINAL*zrSEEN#HAH#JEEM INITIAL*zbJEEM#HAH INITIAL*qALEF MAKSURA FINAL*ziMEEM#",
  "HAH FINAL*kINITIAL*qJEEM INITIAL*rMEEM FINAL*kINITIAL*zlAD#HAH#HAH FINAL*kINITIAL*zaMEEM#MEEM ",
  "FINAL*ziHEEN#HAH#MEEM FINAL*kINITIAL*zbJEEM#YEH FINAL*yMEEM#KHAH FINAL*kINITIAL*rMEEM FINAL*kI",
  "NITIAL*znDAD#HAH#ALEF MAKSURA FINAL*zhKHAH#MEEM FINAL*kINITIAL*zlTAH#MEEM#HAH FINAL*kINITIAL*q",
  "MEEM INITIAL*rYEH FINAL*ziAIN#JEEM#MEEM FINAL*zaMEEM#MEEM FINAL*kINITIAL*rALEF MAKSURA FINAL*z",
  "rGHAIN#MEEM#MEEM FINAL*pYEH FINAL*oALEF MAKSURA FINAL*ztFEH#KHAH#MEEM FINAL*kINITIAL*zlQAF#MEE",
  "M#HAH FINAL*oMEEM FINAL*zjLAM#HAH#MEEM FINAL*pYEH FINAL*oALEF MAKSURA FINAL*zhJEEM#JEEM INITIA",
  "L*mFINAL*zaKHAH#MEEM FINAL*kINITIAL*zcMEEM#HAH FINAL*kINITIAL*zkMEEM#HAH#JEEM INITIAL*rMEEM IN",
  "ITIAL*rYEH FINAL*xJEEM#HAH INITIAL*qMEEM INITIAL*zcKHAH#JEEM INITIAL*rMEEM INITIAL*@fd92@zcJEE",
  "M#KHAH INITIAL*zmHEH#MEEM#JEEM INITIAL*rMEEM INITIAL*zlNOON#HAH#MEEM INITIAL*rALEF MAKSURA FIN",
  "AL*zhJEEM#MEEM FINAL*kINITIAL*rALEF MAKSURA FINAL*ziMEEM#YEH FINAL*oALEF MAKSURA FINAL*zsYEH#M",
  "EEM#MEEM FINAL*kINITIAL*zlBEH#KHAH#YEH FINAL*ziTEH#JEEM#YEH FINAL*oALEF MAKSURA FINAL*ziKHAH#Y",
  "EH FINAL*oALEF MAKSURA FINAL*ziMEEM#YEH FINAL*oALEF MAKSURA FINAL*zrJEEM#MEEM#YEH FINAL*yHAH#A",
  "LEF MAKSURA FINAL*zhMEEM#ALEF MAKSURA FINAL*zsSEEN#KHAH#ALEF MAKSURA FINAL*zrAD#HAH#YEH FINAL*",
  "zgHEEN#HAH#YEH FINAL*zjDAD#HAH#YEH FINAL*zhLAM#JEEM#YEH FINAL*yMEEM#YEH FINAL*ziYEH#HAH#YEH FI",
  "NAL*xJEEM#YEH FINAL*yMEEM#YEH FINAL*ziMEEM#MEEM#YEH FINAL*zjQAF#MEEM#YEH FINAL*ziNOON#HAH#YEH ",
  "FINAL*ziQAF#MEEM#HAH INITIAL*zkLAM#HAH#MEEM INITIAL*zkAIN#MEEM#YEH FINAL*ziKAF#MEEM#YEH FINAL*",
  "ziNOON#JEEM#HAH INITIAL*zlMEEM#KHAH#YEH FINAL*zjLAM#JEEM#MEEM INITIAL*zlKAF#MEEM#MEEM FINAL*zj",
  "LAM#JEEM#MEEM FINAL*zjNOON#JEEM#HAH FINAL*zjJEEM#HAH#YEH FINAL*ziHAH#JEEM#YEH FINAL*ziMEEM#JEE",
  "M#YEH FINAL*zjFEH#MEEM#YEH FINAL*ziBEH#HAH#YEH FINAL*zhKAF#MEEM#MEEM INITIAL*zlAIN#JEEM#MEEM I",
  "NITIAL*zlSAD#MEEM#MEEM INITIAL*zkEEN#KHAH#YEH FINAL*zjNOON#JEEM#YEH FINAL*@fdcf@zjSALAAMUHU AL",
  "AYNAA@fdf0@oLA USED AS KORANIC STOP. =*zuQALA USED AS KORANIC STOP. =*ztALLAH =*sKBAR =*tMOHAM",
  "MAD =*wSALAM =*tRASOUL =*uALAYHE =*uWASALLAM =*wSALLA =*oLLAHOU ALAYHE WASALLAMzcJALLAJALALOUH",
  "OUzgRIAL.jARABIC LIGATURE BISMILLAH AR-RAHMAN AR-RAHEEMzeSUBHAANAHU WA TAAALAAvAZZA WA JALLzdV",
  "ARIATION SELECTOR-1b2b3b4b5b6b7b8b9b10b1b2b3b4b5b6vPRESENTATION* FOR |COMMAfIDEOGRAPHIC COMMAf",
  "FULL STOPvCOLONfSEMICOLONjEXCLAMATION?qQUESTION?n[WHITE LENTICULAR BRACKETze]WHITE LENTICULAR ",
  "BRAKCETzf(ELLIPSIS@fe20@zzaCOMBINING LIGATURE [HALFj]HALFt:TILDE [HALFj]HALFxMACRON [HALFj]HAL",
  "FrCONJOINING MACRONrLIGATURE [HALF,p]HALF,zaTILDE [HALF,p]HALF,wMACRON [HALF,p]HALF,xCONJOININ",
  "G MACRON,wYRILLIC TITLO [HALFj]HALFzkPRESENTATION* FOR |TWO DOT LEADERoEM DASHgN DASHhLOW LINE",
  "iWAVY LOW LINEn[PARENTHESISq]PARENTHESISr[CURLY BRACKETs]CURLY BRACKETt[TORTOISE SHELL BRACKET",
  "zc]TORTOISE SHELL BRACKETzd[)LENTICULAR BRACKETze])LENTICULAR BRACKETzf[:ANGLE BRACKETza]:ANGL",
  "E BRACKETzb[ANGLE BRACKETs]ANGLE BRACKETt[CORNER BRACKETt]CORNER BRACKETu[WHITE CORNER BRACKET",
  "za]WHITE CORNER BRACKETzzhSESAME DOTkWHITE SESAME DOTqPRESENTATION* FOR |[SQUARE BRACKETt]SQUA",
  "RE BRACKETzzbDASHED OVERLINEpCENTRELINE OVERLINEtWAVY OVERLINEn:WAVY OVERLINEtASHED LOW LINEpC",
  "ENTRELINE LOW LINEtWAVY LOW LINEn%COMMAfIDEOGRAPHIC COMMArFULL STOP@fe54@jSEMICOLONjCOLONfQUES",
  "TION?nEXCLAMATION?pM DASHh[PARENTHESISq]PARENTHESISr[CURLY BRACKETs]CURLY BRACKETt[TORTOISE SH",
  "ELL BRACKETzc]TORTOISE SHELL BRACKETzdNUMBER.lAMPERSANDiSTERISKiPLUS.jHYPHEN-MINUSmLESS-THAN.o",
  "GREATER-THAN.rEQUALS.@fe68@lREVERSE SOLIDUSpDOLLAR.lPERCENT.mCOMMERCIAL AT@fe70@tARABIC FATHAT",
  "AN =*wTATWEEL#FATHATAN+zcDAMMATAN =*wTAIL FRAGMENTnKASRATAN =*@fe76@wFATHA =*nMEDIAL*rDAMMA =*",
  "nMEDIAL*rKASRA =*nMEDIAL*rSHADDA =*nMEDIAL*rUKUN =*nMEDIAL*r!HAMZA =*tALEF#MADDA+ =*nFINAL*wHA",
  "MZA+ =*nFINAL*zhWAW#HAMZA+ =*nFINAL*zgALEF#HAMZA, =*nFINAL*zhYEH#HAMZA+ =*nFINAL*kINITIAL*mMED",
  "IAL*zhALEF =*nFINAL*pBEH =*nFINAL*kINITIAL*mMEDIAL*pTEH MARBUTA =*nFINAL*s=*nFINAL*kINITIAL*mM",
  "EDIAL*oHEH =*nFINAL*kINITIAL*mMEDIAL*qJEEM =*nFINAL*kINITIAL*mMEDIAL*qHAH =*nFINAL*kINITIAL*mM",
  "EDIAL*pKHAH =*nFINAL*kINITIAL*mMEDIAL*qDAL =*nFINAL*oTHAL =*nFINAL*pREH =*nFINAL*oZAIN =*nFINA",
  "L*pSEEN =*nFINAL*kINITIAL*mMEDIAL*pHEEN =*nFINAL*kINITIAL*mMEDIAL*qAD =*nFINAL*kINITIAL*mMEDIA",
  "L*pDAD =*nFINAL*kINITIAL*mMEDIAL*pTAH =*nFINAL*kINITIAL*mMEDIAL*pZAH =*nFINAL*kINITIAL*mMEDIAL",
  "*pAIN =*nFINAL*kINITIAL*mMEDIAL*pGHAIN =*nFINAL*kINITIAL*mMEDIAL*rFEH =*nFINAL*kINITIAL*mMEDIA",
  "L*pQAF =*nFINAL*kINITIAL*mMEDIAL*pKAF =*nFINAL*kINITIAL*mMEDIAL*pLAM =*nFINAL*kINITIAL*mMEDIAL",
  "*pMEEM =*nFINAL*kINITIAL*mMEDIAL*qNOON =*nFINAL*kINITIAL*mMEDIAL*qHEH =*nFINAL*kINITIAL*mMEDIA",
  "L*pWAW =*nFINAL*oALEF MAKSURA =*nFINAL*xYEH =*nFINAL*kINITIAL*mMEDIAL*vIGATURE LAM#ALEF#MADDA+",
  " =*nFINAL*wHAMZA+ =*nFINAL*qBELOW =*nFINAL*zc=*nFINAL*@feff@zpZERO WIDTH NO-BREAK SPACE@ff01@z",
  "aFULLWIDTH EXCLAMATION?qQUOTATION?oNUMBER.lDOLLAR.lPERCENT.mAMPERSANDiPOSTROPHEk[PARENTHESISq]",
  "PARENTHESISrASTERISKiPLUS.jCOMMAfHYPHEN-MINUSmFULL STOPjSOLIDUShDIGIT ZEROeONEdTWOcHREEfFOURdI",
  "VEeSIXcEVENfEIGHTfNINEkCOLONfSEMICOLONjLESS-THAN.oEQUALS.lGREATER-THAN.rQUESTION?nCOMMERCIAL A",
  "TnLATIN $!AbBbCbDbEbFbGbHbIbJbKbLbMbNbObPbQbRbSbTbUbVbWbXbYbZvEFT SQUARE BRACKETtREVERSE SOLID",
  "USoIGHT SQUARE BRACKETuCIRCUMFLEX ACCENTrLOW LINEiGRAVE ACCENTmLATIN %!AbBbCbDbEbFbGbHbIbJbKbL",
  "bMbNbObPbQbRbSbTbUbVbWbXbYbZtEFT CURLY BRACKETs|LINEn]CURLY BRACKETtTILDEf[WHITE PARENTHESISw]",
  "WHITE PARENTHESISziHALFWIDTH IDEOGRAPHIC FULL STOPv[CORNER BRACKETt]CORNER BRACKETuIDEOGRAPHIC",
  " COMMArKATAKANA MIDDLE DOTk!WOc%AbIbUbEbObYAbUbOcTUq-HIRAGANA PROLONGED SOUND?zf !AbIbUbEbObKA",
  "bIbUbEbOcSAbIbUbEbOcTAbIbUbEbOcNAbIbUbEbOcHAbIbUbEbOcMAbIbUbEbOcYAbUbOcRAbIbUbEbOcWAcNiVOICED ",
  "SOUND?rSEMI-VOICED SOUND?zgHANGUL FILLERg!KIYEOKgSSANGKIYEOKlKIYEOK-SIOSlNIEUNa-CIEUCfHIEUHlTI",
  "KEUTgSSANGTIKEUTlRIEULa-KIYEOKgMIEUMfPIEUPfSIOSeTHIEUTHhPHIEUPHhHIEUHlMIEUMfPIEUPfSSANGPIEUPkP",
  "IEUP-SIOSkSIOSdSANGSIOSjIEUNGfCIEUCfSSANGCIEUCkCHIEUCHhKHIEUKHhTHIEUTHhPHIEUPHhHIEUH@ffc2@fAaE",
  "cYAaEdEOb@ffca@bYEObcObWAaEdOE@ffd2@cYOcUbWEObbIcYU@ffda@cEUcYIcI@ffe0@zaFULLWIDTH CENT.jPOUND",
  ".kNOT.iMACRONgBROKEN BARkYEN.iWON.@ffe8@sHALFWIDTH*S LIGHT VERTICALu<^pUPWARDS ^n>^qDOWNWARDS ",
  "^p)SQUAREmWHITE CIRCLE@fff9@wINTERLINEAR ANNOTATION ANCHORgSEPARATORjTERMINATORziOBJECT REPLAC",
  "EMENT CHARACTERzdREPLACEMENT CHARACTER"]

end ProposalCheck.Text.CharacterName
