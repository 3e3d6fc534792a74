/-!
# Names of notations and pictographs

The names of the characters from `U+1B000` to `U+10FFFF`, those with computed names aside, in the
short form that `CharacterName.search` reads (Unicode 14).
-/

namespace ProposalCheck.Text.CharacterName

/-- The names in kana beyond the first plane, notations, pictographs and rare ideographs. -/
def notationNames : List String := [
  "@1b000@aKATAKANA !ARCHAIC EzaHIRAGANA !ARCHAIC YEzaENTAIGANA !A-1b2b3bWOeI-1b2b3b4dU-1b2b3b4b5",
  "dE-2b3b4b5b6dO-1b2b3dKA-1b2b3b4b5b6b7b8b9b10b1cKEeI-1b2b3b4b5b6b7b8dU-1b2b3b4b5b6b7dE-1b2b3b4b",
  "5b6dO-1b2b3bKIfSA-1b2b3b4b5b6b7b8dI-1b2b3b4b5b6dU-1b2b3b4b5b6b7b8dE-1b2b3b4b5dO-1b2b3b4b5b6b7e",
  "TA-1b2b3b4dI-1b2b3b4b5b6b7dU-1b2b3b4bTOeE-1b2b3b4b5b6b7b8b9dO-1b2b3b4b5b6bRAfNA-1b2b3b4b5b6b7b",
  "8b9dI-1b2b3b4b5b6b7bTEeU-1b2b3dE-1b2b3b4b5b6bKOeO-1b2b3b4b5eHA-1b2b3b4b5b6b7b8b9b10b1eI-1b2b3b",
  "4b5b6b7dU-1b2b3dE-1b2b3b4b5b6b7dO-1b2b3b4b5b6b7b8eMA-1b2b3b4b5b6b7dI-1b2b3b4b5b6b7dU-1b2b3b4dE",
  "-1b2bMAeO-1b2b3b4b5b6eYA-1b2b3b4b5bYOeU-1b2b3b4dO-1b2b3b4b5b6eRA-1b2b3b4dI-1b2b3b4b5b6b7dU-1b2",
  "b3b4b5b6dE-1b2b3b4dO-1b2b3b4b5b6eWA-1b2b3b4b5dI-1b2b3b4b5dE-1b2b3b4dO-1b2b3b4b5b6b7eN-MU-MO-1b",
  "2zbIRAGANA !ARCHAIC WUzbKATAKANA !ARCHAIC YIbEcWU@1b150@zbHIRAGANA !%WIbEbO@1b164@yKATAKANA !%",
  "WIbEbOcN@1b170@xNUSHU CHARACTER-1B170b1b2b3b4b5b6b7b8b9bAbBbCbDbEbFc80b1b2b3b4b5b6b7b8b9bAbBbC",
  "bDbEbFc90b1b2b3b4b5b6b7b8b9bAbBbCbDbEbFcA0b1b2b3b4b5b6b7b8b9bAbBbCbDbEbFcB0b1b2b3b4b5b6b7b8b9b",
  "AbBbCbDbEbFcC0b1b2b3b4b5b6b7b8b9bAbBbCbDbEbFcD0b1b2b3b4b5b6b7b8b9bAbBbCbDbEbFcE0b1b2b3b4b5b6b7",
  "b8b9bAbBbCbDbEbFcF0b1b2b3b4b5b6b7b8b9bAbBbCbDbEbFd200b1b2b3b4b5b6b7b8b9bAbBbCbDbEbFc10b1b2b3b4",
  "b5b6b7b8b9bAbBbCbDbEbFc20b1b2b3b4b5b6b7b8b9bAbBbCbDbEbFc30b1b2b3b4b5b6b7b8b9bAbBbCbDbEbFc40b1b",
  "2b3b4b5b6b7b8b9bAbBbCbDbEbFc50b1b2b3b4b5b6b7b8b9bAbBbCbDbEbFc60b1b2b3b4b5b6b7b8b9bAbBbCbDbEbFc",
  "70b1b2b3b4b5b6b7b8b9bAbBbCbDbEbFc80b1b2b3b4b5b6b7b8b9bAbBbCbDbEbFc90b1b2b3b4b5b6b7b8b9bAbBbCbD",
  "bEbFcA0b1b2b3b4b5b6b7b8b9bAbBbCbDbEbFcB0b1b2b3b4b5b6b7b8b9bAbBbCbDbEbFcC0b1b2b3b4b5b6b7b8b9bAb",
  "BbCbDbEbFcD0b1b2b3b4b5b6b7b8b9bAbBbCbDbEbFcE0b1b2b3b4b5b6b7b8b9bAbBbCbDbEbFcF0b1b2b3b4b5b6b7b8",
  "b9bAbB@1bc00@vDUPLOYAN !HbXbPbTbFbKbLbBbDbVbGbRbP NdD SdF NdK MdR SdTHcSLOAN DHiDHcKKcSLOAN Jh",
  "HLcLHcRHcMbNbJbSbM NdN MdJ MdS JdM#DOTkN#DOTkJ#DOTaS INSIDE AND+zdS#DOTa,qM SdN SdJ SdS SdM N ",
  "SfN M SfJ M SfS J SfJ S#DOTkNa SfS Ta RdPa RfT SbR SfWaHb RdS NbMdK R SfG R SfS Ka RfAbSLOAN O",
  "WiOAbbAOUdIbEbIEcSHORT IhUIcEEcSLOAN EHiROMANIAN IkSLOAN EEiLONG IgYEcUbEUcXWcU NdLONG UgROMAN",
  "IAN UkUHcSLOAN UhOOHcWbUcWAbObIbEIcOWdNASAL UbObIbAhPERNIN ANbMjSLOAN ENcANcONiVOCALIC M@1bc70",
  "@qAFFIX [(SECANTwMID (SECANTv](SECANTxLOW |SECANTtMID |SECANTtHIGH |SECANTuATTACHED SECANTgLEF",
  "T-TO-]SECANTuTANGENTfILeE HOOKgI HOOKgTANGENT HOOK@1bc80@vHIGH ACUTEfTIGHT ACUTElGRAVEfLONG GR",
  "AVEkDOTdCIRCLEgLINEeWAVEeVERTICAL@1bc90@nLOW ACUTEfTIGHT ACUTElGRAVEfLONG GRAVEkDOTdCIRCLEgLIN",
  "EeWAVEeVERTICALi^@1bc9c@pSIGN O#CROSSrTHICK !SELECTORv:MARKlPUNCTUATION CHINOOK FULL STOPznSHO",
  "RTHAND*AT !OVERLAPoCONTINUING OVERLAPsDOWN STEPjUP STEP@1cf00@yZNAMENNY COMBINING? GORAZDO NIZ",
  "KO S KRYZHEM ON LEFTzgNIZKO S KRYZHEM ON LEFTxTSATA ON LEFTnGORAZDO NIZKO ON LEFTvNIZKO ON LEF",
  "TnSREDNE ON LEFToMALO POVYSHE ON LEFTuPOVYSHE ON LEFTpVYSOKO ON LEFToMALO POVYSHE S KHOKHLOM O",
  "N LEFTzgPOVYSHE S KHOKHLOM ON LEFTzbVYSOKO S KHOKHLOM ON LEFTzaGORAZDO NIZKO S KRYZHEM ON RIGH",
  "TzhNIZKO S KRYZHEM ON RIGHTyTSATA ON RIGHToGORAZDO NIZKO ON RIGHTwNIZKO ON RIGHToSREDNE ON RIG",
  "HTpMALO POVYSHE ON RIGHTvPOVYSHE ON RIGHTqVYSOKO ON RIGHTpMALO POVYSHE S KHOKHLOM ON RIGHTzhPO",
  "VYSHE S KHOKHLOM ON RIGHTzcVYSOKO S KHOKHLOM ON RIGHTzbTSATA S KRYZHEMpMALO POVYSHE S KRYZHEMw",
  "STRANNO MALO POVYSHEuPOVYSHE S KRYZHEMiTRANNOpVYSOKO S KRYZHEMqMALO POVYSHE STRANNOuGORAZDO VY",
  "SOKOoZELOeONcRAVNOfTIKHAYAhBORZAYAhUDARKAgPODVERTKAjLOMKAfKUPNAYAgACHKAgZEVOKfSKOBAfRAZSEKAhKR",
  "YZH ON LEFT@1cf30@sTONAL RANGE? MRACHNOhSVETLOgTRESVETLOzbMARK ZADERZHKAjDEMESTVENNY ZADERZHKA",
  "vOTSECHKAiPODCHASHIEa#|STROKEzgCHASHKAa POLNAYApOBLACHKOiSOROCHYA NOZHKApTOCHKAgDVOETOCHIEpATT",
  "ACHING |OMETxMARK CURVED OMETlKRYZHkLOWER TONAL RANGE INDICATORzmPRIZNAK MODIFIER LEVEL-2b3hDI",
  "RECTION FLIPoKRYZHfROG@1cf50@uNEUME KRYUKa TIKHYlPARAKLITiDVA V CHELNUmKLYUCHgZANOZHEKiSTOPITS",
  "Aa S OCHKOMrPEREVODKAa NEPOSTOYANNAYAySTOPITSA#SOROCHYA NOZHKAzeCHELYUSTKAkPALKAfZAPYATAYAjGOL",
  "UBCHIK BORZYfTIKHYfMRACHNYhSVETLYgTRESVETLYtVRAKHIYA PROSTAYAiMRACHNAYAjSVETLAYAiTRESVETLAYAlK",
  "LYUCHEVAYA PROSTAYAiMRACHNAYAjSVETLAYAiTRESVETLAYAzh:ZAPYATAYAqREVERSED CHELYUSTKAtDERBITSAiKH",
  "AMILOhCHASHKAhPODCHASHIEkSKAMEYTSA MRACHNAYAjSVETLAYAiTRESVETLAYAkIKHAYArDEMESTVENNY KLYUCHsSK",
  "AMEYTSA KLYUCHEVAYA SVETLAYAnNEPOSTOYANNAYAoVAYA TIKHAYAtDVOECHELNAYA PROSTAYAiSVETLAYAiNEPOST",
  "OYANNAYAoKLYUCHEVAYAziLOZHITIEa S ZAPYATOYkZAKRYTOEiS KRYZHEMtKRYZHfROGdFITAeKOBYLAgZMEYTSAhST",
  "ATYAa S ZAPYATOYiKRYZHEMhZAPYATOY I KRYZHEMsKRYZHEM I ZAPYATOYuZAKRYTAYAa S ZAPYATOYuS ROGOMfD",
  "VUMYA ZAPYATYMIqZAPYATOY I PODCHASHIEMzgPOLKULIZMYkSTATYA NEPOSTOYANNAYAtRELA PROSTAYAiMRACHNO",
  "TIKHAYAoKRYZHEVAYAkPOLUPOVODNAYAlVODNAYAjNEPOSTOYANNAYAoKLYUCHEPOVODNAYAjNEPOSTOYANNAYAvTIKHAY",
  "A PUTNAYApDVOECHELNAYAdOKRYZHEVAYAkPOVODNAYAkAYA KLYUCHEVAYApOPOVODNAYA KLYUCHEVAYAzgGROMNAYA#",
  "SINGLE ZAPYATAYAzbOPOVODNAYA#SINGLE ZAPYATAYAzhNAYAeOPOVODNAYAa#:ZAPYATAYAzgKRYZHEVAYAa POVODN",
  "AYAzhMECHIKa POVODNYhKLYUCHEVOYdPOVODNYhNEPOSTOYANNYzbSTRELA TRYASOGLASNAYAiPOVODNAYAjSTRELNAY",
  "AwOSOKAa SVETLAYAiTRESVETLAYAlKRYUKOVAYA SVETLAYAsLYUCHEVAYA SVETLAYAiNEPOSTOYANNAYAzhSTRELA K",
  "RYUKOVAYAa POVODNAYAjGROMNAYA#SINGLE ZAPYATAYAzbOPOVODNAYA#SINGLE ZAPYATAYAzhNAYAeOPOVODNAYAa#",
  ":ZAPYATAYAzgKRYZHEVAYAa POVODNAYAzaTRYASKAzaKUFISMAhOBLAKOgDUDAeNEMKAfPAUK@1d000@tBYZANTINE MU",
  "SICAL ~PSILIfDASEIAgPERISPOMENIlOXEIA EKFONITIKONlDIPLIlVAREIA EKFONITIKONlDIPLImKATHISTIiSYRM",
  "ATIKIjPARAKLITIKIlYPOKRISISa DIPLIpKREMASTIiAPESO EKFONITIKONrEXO EKFONITIKONpTELEIAgKENTIMATA",
  "jAPOSTROFOSa DIPLIqSYNEVMAhTHITAfOLIGON ARCHAIONpGORGON ARCHAIONpPSILONgCHAMILONiVATHYfISON AR",
  "CHAIONnKENTIMA ARCHAIONjTA ARCHAIONsSAXIMATAiPARICHONiSTAVROS APODEXIAqOXEIAI ARCHAIONpVAREIAI",
  " ARCHAIONqAPODERMA ARCHAIONoTHEMAiKLASMAgREVMAfPIASMA ARCHAIONpTINAGMAhANATRICHISMAmSEISMAfYNA",
  "GMA ARCHAIONiMETA STAVROUuOYRANISMA ARCHAIONsTHEMAfLEMOIfDYOdTRIAdESSERAhKRATIMATAjAPESO EXO N",
  "EOnFTHORA ARCHAIONpIMIFTHORAjTROMIKON ARCHAIONrKATAVA TROMIKONpPELASTONhSIFISTONjKONTEVMAiCHOR",
  "EVMA ARCHAIONrRAPISMAhPARAKALESMA ARCHAIONpLITIKI ARCHAIONuICHADINhNANAePETASMAhKONTEVMA ALLOn",
  "TROMIKON ALLOnSTRAGGISMATAmGRONTHISMATAmISON NEOiOLIGON NEOjXEIA NEOjPETASTIhKOUFISMAiPETASTOK",
  "OUFISMApKRATIMOKOUFISMApPELASTON NEOmKENTIMATA NEO ANOk NEO ANOpYPSILIgAPOSTROFOS NEOfI SYNDES",
  "MOS NEOyYPORROIhKRATIMOYPORROONpELAFRONhCHAMILIhMIKRON ISONlVAREIA NEOkPIASMA NEOjSIFISTON NEO",
  "nOMALONgANTIKENOMAkLYGISMAhPARAKLITIKI NEOkALESMA NEOpETERON PARAKALESMAsKYLISMAhANTIKENOKYLIS",
  "MApTROMIKON NEOmEKSTREPTONkSYNAGMA NEOjRMAfCHOREVMA NEOmEPEGERMAiSEISMA NEOkXIRON KLASMAmTROMI",
  "KOPSIFISTONqPSIFISTOLYGISMApTROMIKOLYGISMAhPARAKALESMAsPSIFISTOPARAKALESMAtTROMIKOSYNAGMAoPSIF",
  "ISTOSYNAGMApGORGOSYNTHETONoARGOSYNTHETONnETERON ARGOSYNTHETONuOYRANISMA NEOnTHEMATISMOS ESOcXO",
  "k APLOUNjS KAI APOTHESqKATAVASMAjENDOFONONjYFEN KATOeANOiSTAVROShKLASMA ANOkDIPLI ARCHAIONoKRA",
  "TIMA ARCHAIONhLLOeNEOlAPODERMA NEOkLIeDIPLIfTRIPLIfETRAPLIiKORONIShLEIMMA ENOS CHRONOUmDYO CHR",
  "ONONlTRION CHRONONmESSARON CHRONONqIMISEOS CHRONOUwGORGON NEO ANOhPARESTIGMENON ARISTERAiDEXIA",
  "zbDIGORGONa PARESTIGMENON ARISTERA KATOeANOmDEXIAzdTRIGORGONjARGONfIMIDIARGONkDIARGONhAGOGI PO",
  "LI ARGIjARGOTERIfIeMETRIAeSIeGORGIbOTERIjPOLI GORGIqMARTYRIA PROTOS ICHOSmALLI PROTOS ICHOSrDE",
  "YTEROS ICHOSoALLI DEYTEROS ICHOStTRITOS ICHOSjFONIASiETARTOS ICHOSfLEGETOS ICHOSwLEGETOS ICHOS",
  "nPLAGIOS ICHOSwISAKIA TELOUS ICHIMATOSxAPOSTROFOI TELOUS ICHIMATOSzcFANEROSIS TETRAFONIASlMONO",
  "FONIASkDIFONIASsMARTYRIA VARYS ICHOSlPROTOVARYS ICHOSpLAGIOS TETARTOS ICHOSzgGORTHMIKON N APLO",
  "UNgDIPLOUNuENARXIS KAI FTHORA VOUwIMIFONONeTHORONkFTHORA ARCHAION DEYTEROU ICHOUxDIATONIKI PAc",
  "NANAoNAOS ICHOSkDIATONIKI DImSKLIRON DIATONON DItDIATONIKI KEcZOcNI KATOeANOqMALAKON CHROMA DI",
  "FONIASiMONOFONIASzgHTORA SKLIRON CHROMA VASISzbTHORA SKLIRON CHROMA SYNAFIvNENANOnCHROA ZYGOSf",
  "KLITONgSPATHImFTHORA I YFESIS TETARTIMORIONwENARMONIOS ANTIFONIAzcYFESIS TRITIMORIONsDIESIS TR",
  "ITIMORIONkETARTIMORIONnAPLI DYO DODEKATArMONOGRAMMOS TESSERA DODEKATAzdDIGRAMMOS EX DODEKATAvT",
  "RIGRAMMOS OKTO DODEKATAzgYFESIS APLI DYO DODEKATArMONOGRAMMOS TESSERA DODEKATAzdDIGRAMMOS EX D",
  "ODEKATAvTRIGRAMMOS OKTO DODEKATAzgGENIKI DIESISgYFESISnDIASTOLI APLI MIKRIeEGALIlDIPLIfTHESEOS",
  "qSIMANSIS THESEOSa DISIMOUhTRISIMOUhETRASIMOUsARSEOSa DISIMOUhTRISIMOUhETRASIMOUzbDIGRAMMA GGj",
  "FTOGGOS OUmSTIGMAgARKTIKO PAcVOUdGAcDIcKEcZOcNIkKENTIMATA NEO MESOl NEO MESOjTA NEO KATOl NEO ",
  "KATOpLASMA KATOlGORGON NEO KATO@1d100@zpMUSICAL ~SINGLE BARLINEo:BARLINEoFINAL BARLINEnREVERSE",
  " FINAL BARLINEvDASHED BARLINEoSHORT BARLINEn[REPEAT.q]REPEAT.qEPEAT DOTSlDAL SEGNOh CAPOhSEGNO",
  "fCODAeREPEATED FIGURE-1b2b3rFERMATAa,nBREATH?lCAESURAhBRACEbKEThONE-LINE STAFFoTWO-LINE STAFFn",
  "HREE-LINE STAFFqFOUR-LINE STAFFoIVE-LINE STAFFpSIX-LINE STAFFkSTRING FRETBOARDuFOUR-STRING FRE",
  "TBOARDvG CLEFa OTTAVA ALTAeBASSAtC CLEFgF CLEFa OTTAVA ALTAeBASSAtDRUM CLEF-1b2@1d129@lMULTIPL",
  "E MEASURE RESTv:SHARPfFLATlFLAT UPcDOWNjNATURAL UPcDOWNmSHARP UPcDOWNkQUARTER TONE SHARPfFLATr",
  "COMMON TIMEkUT TIMEiOTTAVA ALTAeBASSAmQUINDICESIMA ALTAeBASSAsMULTI RESTkWHOLE RESTkHALF RESTj",
  "QUARTER RESTmEIGHTH RESTlSIXTEENTH RESToTHIRTY-SECOND RESTsSIXTY-FOURTH RESTrONE HUNDRED TWENT",
  "Y-EIGHTH RESTzfX NOTEHEADkPLUS NOTEHEADnCIRCLE X NOTEHEADrSQUARE NOTEHEAD WHITEfBLACKv; NOTEHE",
  "AD UP WHITEfBLACKi[WHITEfBLACKk]WHITEfBLACKlDOWN WHITEfBLACKkUP ]WHITEfBLACKzhMOON NOTEHEAD WH",
  "ITEfBLACKt;-ROUND NOTEHEAD DOWN WHITEfBLACKzjPARENTHESIS NOTEHEADuVOID NOTEHEADnNOTEHEAD BLACK",
  "nULL NOTEHEADnCLUSTER NOTEHEAD WHITEfBLACKwBREVEfWHOLE NOTEkHALF NOTEjQUARTER NOTEmEIGHTH NOTE",
  "lSIXTEENTH NOTEoTHIRTY-SECOND NOTEsSIXTY-FOURTH NOTErONE HUNDRED TWENTY-EIGHTH NOTEzfCOMBINING",
  " STEMdPRECHGESANG STEMrTREMOLO-1b2b3tFINGERED TREMOLO-1b2b3sCOMBINING AUGMENTATION DOTqFLAG-1b",
  "2b3b4b5qBEGIN BEAMkEND BEAMiBEGIN TIEjEND TIEhBEGIN SLURkEND SLURiBEGIN PHRASEmEND PHRASEkCOMB",
  "INING ACCENTgSTACCATOiTENUTOgSTACCATISSIMOnMARCATOa-STACCATOqACCENT-STACCATOpLOUREpARPEGGIATO ",
  "UPcDOWNpCOMBINING DOITeRIPdFLIPeSMEARfBENDe:TONGUEnTRIPLE TONGUExRINFORZANDOlSUBITOgZbPIANOfME",
  "ZZOfFORTEfCRESCENDOjDECRESCENDOlGRACE NOTE SLASHfNO SLASHtTRbURNeINVERTED TURNnTURN SLASHfUPhO",
  "RNAMENT STROKE-1b2b3b4b5b6b7b8b9b10b1sHAUPTSTIMMElNEBENSTIMMElEND OF STIMMEnDEGREE SLASHmCOMBI",
  "NING DOWN BOWiUP BOWgHARMONICiSNAP PIZZICATOyPEDAL?eUP?nHALF PEDAL?pGLISSANDO UPcDOWNoWITH FIN",
  "GERNAILSqDAMPa ALLiMAXIMAgLONGAfBREVISgSEMIBREVIS WHITEfBLACKqMINIMAa BLACKmSEMIMINIMA WHITEfB",
  "LACKqFUSA WHITEfBLACKkLONGA PERFECTA RESTnIMPERFECTA RESTvBREVIS RESTlSEMIBREVIS RESTpMINIMA R",
  "ESTlSEMIMINIMA RESTpTEMPUS PERFECTUM CUM PROLATIONE PERFECTAiIMPERFECTAkPERFECTA DIMINUTION-1z",
  "vIMPERFECTUM CUM PROLATIONE PERFECTAiIMPERFECTAa DIMINUTION-1b2b3zzhCROIXfGREGORIAN C CLEFgF C",
  "LEFqSQUARE BiVIRGAfPODATUShCLIVISgSCANDICUSjCLIMACUSiTORCULUSiPORRECTUSa FLEXUSqSCANDICUS FLEX",
  "USqTORCULUS RESUPINUSsPES SUBPUNCTISoKIEVAN C CLEFgEND OF PIECEmFINAL NOTEkRECITATIVE?pWHOLE N",
  "OTEkHALF NOTEjQUARTER NOTE STEM DOWNeUPuEIGHTH NOTE STEM DOWNeUPtFLAT.qSORIeKORON@1d200@uGREEK",
  " VOCAL NOTATION SYMBOL-1b2b3b4b5b6b7b8b9b10b1b2b3b4b5b6b7b8b9c20b1b2b3b4c50b1b2b3b4yINSTRUMENT",
  "AL NOTATION SYMBOL-1b2b4b5b7b8b11b2b3b4b7b8b9c23b4b5b6b7b9c30b2b6b7b8b9c40b2b3b5b7b8b9c50b1b2b",
  "3b4zmCOMBINING GREEK MUSICAL TRISEMEgETRASEMEjPENTASEMEziGREEK MUSICAL LEIMMA@1d2e0@uMAYAN NUM",
  "ERAL ZEROeONEdTWOcHREEfFOURdIVEeSIXcEVENfEIGHTfNINEeTENdELEVENgTWELVEfHIRTEENiFOURTEENhIFTEENh",
  "SIXTEENgEVENTEENjEIGHTEENiNINETEEN@1d300@vONOGRAM FOR EARTHsDIGRAM FOR HEAVENLY EARTHnUMAN EAR",
  "THlEARTHLY HEAVENfUMANiqTETRAGRAM FOR CENTREgFULL CIRCLElMIREDfBARRIERhKEEPING SMALLnCONTRARIE",
  "TYlASCENTgOPPOSITIONkBRANCHING OUTnDEFECTIVENESS OR DISTORTIONzbIVERGENCEkYOUTHFULNESSmINCREAS",
  "EiPENETRATIONlREACHfCONTACThHOLDING BACKmWAITINGhFOLLOWINGjADVANCEhRELEASEfSISTANCEkEASEeJOYdC",
  "ONTENTIONkENDEAVOURjDUTIESgCHANGEgDECISIVENESSmBOLD RESOLUTIONpPACKINGhLEGIONgCLOSENESSjKINSHI",
  "PhGATHERINGjSTRENGTHiPURITYgFULLNESSiRESIDENCEjLAW OR MODELmRESPONSEiGOING TO MEETnENCOUNTERSk",
  "STOVEfGREATNESSjENLARGEMENTlPATTERNhRITUALgFLIGHTgVASTNESS OR WASTINGtCONSTANCYjMEASUREhETERNI",
  "TYiUNITYfDIMINISHMENTmCLOSED MOUTHmGUARDEDNESSkATHERING INmMASSINGhACCUMULATIONmEMBELLISHMENTn",
  "DOUBTfWATCHfSINKINGhINNERfDEPARTUREiARKENINGiIMMINGhEXHAUSTIONkSEVERANCEiTOPPAGEiHARDNESSiCOMP",
  "LETIONjLOSUREhFAILUREhAGGRAVATIONlCOMPLIANCEkON THE VERGEmDIFFICULTIESmLABOURINGjFOSTERING@1d3",
  "60@xCOUNTING ROD UNIT DIGIT ONEdTWOcHREEfFOURdIVEeSIXcEVENfEIGHTfNINEpTENS DIGIT ONEdTWOcHREEf",
  "FOURdIVEeSIXcEVENfEIGHTfNINEzdIDEOGRAPHIC TALLY? ONEdTWOcHREEfFOURdIVEzcTALLY? ONEdFIVE@1d400@",
  "pMATHEMATICAL BOLD $AbBbCbDbEbFbGbHbIbJbKbLbMbNbObPbQbRbSbTbUbVbWbXbYbZj%AbBbCbDbEbFbGbHbIbJbK",
  "bLbMbNbObPbQbRbSbTbUbVbWbXbYbZmITALIC $AbBbCbDbEbFbGbHbIbJbKbLbMbNbObPbQbRbSbTbUbVbWbXbYbZj%Ab",
  "BbCbDbEbFbG@1d456@bIbJbKbLbMbNbObPbQbRbSbTbUbVbWbXbYbZoBOLD ITALIC $AbBbCbDbEbFbGbHbIbJbKbLbMb",
  "NbObPbQbRbSbTbUbVbWbXbYbZj%AbBbCbDbEbFbGbHbIbJbKbLbMbNbObPbQbRbSbTbUbVbWbXbYbZtSCRIPT $A@1d49e",
  "@bCbD@1d4a2@bG@1d4a5@bJbK@1d4a9@bNbObPbQ@1d4ae@bSbTbUbVbWbXbYbZj%AbBbCbD@1d4bb@bF@1d4bd@bHbIbJ",
  "bKbLbMbN@1d4c5@bPbQbRbSbTbUbVbWbXbYbZoBOLD SCRIPT $AbBbCbDbEbFbGbHbIbJbKbLbMbNbObPbQbRbSbTbUbV",
  "bWbXbYbZj%AbBbCbDbEbFbGbHbIbJbKbLbMbNbObPbQbRbSbTbUbVbWbXbYbZtFRAKTUR $AbB@1d507@bDbEbFbG@1d50",
  "d@bJbKbLbMbNbObPbQ@1d516@bSbTbUbVbWbXbY@1d51e@j%AbBbCbDbEbFbGbHbIbJbKbLbMbNbObPbQbRbSbTbUbVbWb",
  "XbYbZpDOUBLE-STRUCK $AbB@1d53b@bDbEbFbG@1d540@bIbJbKbLbM@1d546@bO@1d54a@bSbTbUbVbWbXbY@1d552@j",
  "%AbBbCbDbEbFbGbHbIbJbKbLbMbNbObPbQbRbSbTbUbVbWbXbYbZvBOLD FRAKTUR $AbBbCbDbEbFbGbHbIbJbKbLbMbN",
  "bObPbQbRbSbTbUbVbWbXbYbZj%AbBbCbDbEbFbGbHbIbJbKbLbMbNbObPbQbRbSbTbUbVbWbXbYbZuSANS-SERIF $AbBb",
  "CbDbEbFbGbHbIbJbKbLbMbNbObPbQbRbSbTbUbVbWbXbYbZj%AbBbCbDbEbFbGbHbIbJbKbLbMbNbObPbQbRbSbTbUbVbW",
  "bXbYbZhBOLD $AbBbCbDbEbFbGbHbIbJbKbLbMbNbObPbQbRbSbTbUbVbWbXbYbZj%AbBbCbDbEbFbGbHbIbJbKbLbMbNb",
  "ObPbQbRbSbTbUbVbWbXbYbZmITALIC $AbBbCbDbEbFbGbHbIbJbKbLbMbNbObPbQbRbSbTbUbVbWbXbYbZj%AbBbCbDbE",
  "bFbGbHbIbJbKbLbMbNbObPbQbRbSbTbUbVbWbXbYbZoBOLD ITALIC $AbBbCbDbEbFbGbHbIbJbKbLbMbNbObPbQbRbSb",
  "TbUbVbWbXbYbZj%AbBbCbDbEbFbGbHbIbJbKbLbMbNbObPbQbRbSbTbUbVbWbXbYbZzfMONOSPACE $AbBbCbDbEbFbGbH",
  "bIbJbKbLbMbNbObPbQbRbSbTbUbVbWbXbYbZj%AbBbCbDbEbFbGbHbIbJbKbLbMbNbObPbQbRbSbTbUbVbWbXbYbZrITAL",
  "IC %DOTLESS IbJ@1d6a8@wBOLD $ALPHAfBETAeGAMMAfDELTAfEPSILONhZETAeETAdTHETAfIOTAeKAPPAfLAMDAfMU",
  "cNUcXIcOMICRONhPIcRHOdTHETA SYMBOLmSIGMAfTAUdUPSILONhPHIdCHIdPSIdOMEGAnNABLAf%ALPHAfBETAeGAMMA",
  "fDELTAfEPSILONhZETAeETAdTHETAfIOTAeKAPPAfLAMDAfMUcNUcXIcOMICRONhPIcRHOdFINAL SIGMAlSIGMAfTAUdU",
  "PSILONhPHIdCHIdPSIdOMEGAlPARTIAL DIFFERENTIALuEPSILON SYMBOLoTHETA SYMBOLmKAPPA SYMBOLmPHI SYM",
  "BOLkRHO SYMBOLkPI SYMBOLoITALIC $ALPHAfBETAeGAMMAfDELTAfEPSILONhZETAeETAdTHETAfIOTAeKAPPAfLAMD",
  "AfMUcNUcXIcOMICRONhPIcRHOdTHETA SYMBOLmSIGMAfTAUdUPSILONhPHIdCHIdPSIdOMEGAnNABLAf%ALPHAfBETAeG",
  "AMMAfDELTAfEPSILONhZETAeETAdTHETAfIOTAeKAPPAfLAMDAfMUcNUcXIcOMICRONhPIcRHOdFINAL SIGMAlSIGMAfT",
  "AUdUPSILONhPHIdCHIdPSIdOMEGAlPARTIAL DIFFERENTIALuEPSILON SYMBOLoTHETA SYMBOLmKAPPA SYMBOLmPHI",
  " SYMBOLkRHO SYMBOLkPI SYMBOLqBOLD ITALIC $ALPHAfBETAeGAMMAfDELTAfEPSILONhZETAeETAdTHETAfIOTAeK",
  "APPAfLAMDAfMUcNUcXIcOMICRONhPIcRHOdTHETA SYMBOLmSIGMAfTAUdUPSILONhPHIdCHIdPSIdOMEGAnNABLAf%ALP",
  "HAfBETAeGAMMAfDELTAfEPSILONhZETAeETAdTHETAfIOTAeKAPPAfLAMDAfMUcNUcXIcOMICRONhPIcRHOdFINAL SIGM",
  "AlSIGMAfTAUdUPSILONhPHIdCHIdPSIdOMEGAlPARTIAL DIFFERENTIALuEPSILON SYMBOLoTHETA SYMBOLmKAPPA S",
  "YMBOLmPHI SYMBOLkRHO SYMBOLkPI SYMBOLvSANS-SERIF BOLD $ALPHAfBETAeGAMMAfDELTAfEPSILONhZETAeETA",
  "dTHETAfIOTAeKAPPAfLAMDAfMUcNUcXIcOMICRONhPIcRHOdTHETA SYMBOLmSIGMAfTAUdUPSILONhPHIdCHIdPSIdOME",
  "GAnNABLAf%ALPHAfBETAeGAMMAfDELTAfEPSILONhZETAeETAdTHETAfIOTAeKAPPAfLAMDAfMUcNUcXIcOMICRONhPIcR",
  "HOdFINAL SIGMAlSIGMAfTAUdUPSILONhPHIdCHIdPSIdOMEGAlPARTIAL DIFFERENTIALuEPSILON SYMBOLoTHETA S",
  "YMBOLmKAPPA SYMBOLmPHI SYMBOLkRHO SYMBOLkPI SYMBOLjITALIC $ALPHAfBETAeGAMMAfDELTAfEPSILONhZETA",
  "eETAdTHETAfIOTAeKAPPAfLAMDAfMUcNUcXIcOMICRONhPIcRHOdTHETA SYMBOLmSIGMAfTAUdUPSILONhPHIdCHIdPSI",
  "dOMEGAnNABLAf%ALPHAfBETAeGAMMAfDELTAfEPSILONhZETAeETAdTHETAfIOTAeKAPPAfLAMDAfMUcNUcXIcOMICRONh",
  "PIcRHOdFINAL SIGMAlSIGMAfTAUdUPSILONhPHIdCHIdPSIdOMEGAlPARTIAL DIFFERENTIALuEPSILON SYMBOLoTHE",
  "TA SYMBOLmKAPPA SYMBOLmPHI SYMBOLkRHO SYMBOLkPI SYMBOLzhBOLD $DIGAMMAp%DIGAMMA@1d7ce@nDIGIT ZE",
  "ROeONEdTWOcHREEfFOURdIVEeSIXcEVENfEIGHTfNINEpDOUBLE-STRUCK DIGIT ZEROeONEdTWOcHREEfFOURdIVEeSI",
  "XcEVENfEIGHTfNINEySANS-SERIF DIGIT ZEROeONEdTWOcHREEfFOURdIVEeSIXcEVENfEIGHTfNINEkBOLD DIGIT Z",
  "EROeONEdTWOcHREEfFOURdIVEeSIXcEVENfEIGHTfNINEzbMONOSPACE DIGIT ZEROeONEdTWOcHREEfFOURdIVEeSIXc",
  "EVENfEIGHTfNINEziSIGNWRITING HAND-FIST INDEXkCIRCLE INDEXlUP INDEXjOVAL INDEXkHINGE INDEXlANGL",
  "E INDEXlFIST INDEX BENTpCIRCLE INDEX BENTrFIST THUMB UNDER INDEX BENTwINDEX RAISED KNUCKLEoCUP",
  "PEDgHINGEDa LOWvCIRCLE INDEX HINGEsFIST INDEX MIDDLErCIRCLE INDEX MIDDLEtFIST INDEX MIDDLE BEN",
  "TeRAISED KNUCKLESpHINGEDnUP MIDDLE HINGEDqHINGED MIDDLE UPqMIDDLE CONJOINEDa INDEX BENTkMIDDLE",
  " BENTlCUPPEDgHINGEDpROSSEDzaCIRCLE INDEX MIDDLE CROSSEDzcFIST MIDDLE BENT OVER INDEXwINDEX BEN",
  "T OVER MIDDLEqMIDDLE THUMBxCIRCLE INDEX MIDDLE THUMBzaFIST INDEX MIDDLE STRAIGHT THUMB BENTtBE",
  "NT THUMB STRAIGHTtTHUMB BENTkHINGED SPREAD THUMB SIDEzgUP MIDDLE HINGED THUMB SIDEeCONJOINEDzh",
  "HINGED MIDDLE UP THUMB SIDEzcMIDDLE UP SPREAD THUMB FORWARDxTHUMB CUPPEDfIRCLEDhHOOKEDfINGEDza",
  "THUMB BETWEEN INDEX MIDDLE STRAIGHTzkINDEX MIDDLE CONJOINED THUMB SIDEa CONJOINEDjBENTznMIDDLE",
  " THUMB HOOKED INDEX UPzdINDEX THUMB HOOKED MIDDLE UPwMIDDLE CONJOINED HINGED THUMB SIDEzbROSSE",
  "D THUMB SIDErONJOINED THUMB FORWARDnCUPPED THUMB FORWARDzsMIDDLE THUMB CUPPED INDEX UPzdINDEX ",
  "THUMB CUPPED MIDDLE UPzdMIDDLE THUMB CIRCLED INDEX UPcHINGEDziINDEX THUMB ANGLED OUT MIDDLE UP",
  "nIN MIDDLE UPtCIRCLED MIDDLE UPxMIDDLE THUMB CONJOINED HINGEDqANGLED OUTezaMIDDLE THUMB ANGLED",
  " OUT INDEX UPcCROSSEDrINDEX UPzdINDEX THUMB HOOKED MIDDLE HINGEDzlLAT FOUR FINGERSa BENTeHINGE",
  "DgCONJOINEDa SPLITziCLAW FOUR FINGERS CONJOINEDzcFIST FOUR FINGERS CONJOINED BENTzhHINGE FOUR ",
  "FINGERS CONJOINEDzdFLAT FIVE FINGERS SPREADtHEEL FIVE FINGERS SPREADyFIVE FINGERS SPREAD FOUR ",
  "BENTzeHEEL FIVE FINGERS SPREAD FOUR BENTzjFIVE FINGERS SPREAD BENTyHEEL FIVE FINGERS SPREAD BE",
  "NTzeFIVE FINGERS SPREAD THUMB FORWARDznCUP FIVE FINGERS SPREADa OPENzdHINGE FIVE FINGERS SPREA",
  "D OPENzfOVAL FIVE FINGERS SPREADyFLAT FIVE FINGERS SPREAD HINGEDa THUMB SIDEkNO THUMBzla BETWE",
  "EN PALM FACINGSuHEELeTHUMB SIDEkHEEL THUMB SIDEpTHUMB BENTeFORWARDnSPLIT INDEX THUMB SIDEqCENT",
  "REa THUMB SIDEa BENTwLITTLErCLAWa THUMB SIDEkNO THUMBiTHUMB FORWARDsHOOK CURLICUEjeCUP OPENfa ",
  "OPEN THUMB SIDEpTHUMB SIDEkOPEN NO THUMBnNO THUMBiOPEN THUMB FORWARDsTHUMB FORWARDpRLICUE OPEN",
  "fhIRCLEgOVALa THUMB SIDEkNO THUMBiTHUMB FORWARDsHINGE OPENa THUMB FORWARDta SMALLfOPEN THUMB S",
  "IDEpTHUMB SIDEkOPEN NO THUMBnNO THUMBiTHUMB SIDE TOUCHING INDEXtBETWEEN MIDDLE RINGzgANGLEfFIS",
  "T INDEX MIDDLE RINGwCIRCLE INDEX MIDDLE RINGyHINGE INDEX MIDDLE RINGxANGLE INDEX MIDDLE RINGxH",
  "INGE LITTLEmFIST INDEX MIDDLE RING BENTeCONJOINEDzhHINGE INDEX MIDDLE RING CONJOINEDziFIST LIT",
  "TLE DOWNa RIPPLE STRAIGHTiCURVEDnOTHERS CIRCLEDtUPjTHUMB UNDER LITTLE UPzbCIRCLE LITTLE UPqOVA",
  "L LITTLE UPoANGLE LITTLE UPpFIST LITTLE RAISED KNUCKLEoBENTeTOUCHES THUMBmHUMBrHINGE LITTLE TH",
  "UMBsFIST LITTLE INDEX THUMBxHINGE LITTLE INDEX THUMByANGLE LITTLE INDEX THUMB INDEX THUMB OUTe",
  "zlFIST LITTLE INDEXrCIRCLE LITTLE INDEXtHINGE LITTLE INDEXsANGLE LITTLE INDEXsFIST INDEX MIDDL",
  "E LITTLEyCIRCLE INDEX MIDDLE LITTLEzbHINGE INDEX MIDDLE LITTLEtRINGkANGLE INDEX MIDDLE LITTLEz",
  "aFIST INDEX MIDDLE CROSS LITTLEzfCIRCLE INDEX MIDDLE CROSS LITTLEzhFIST RING DOWNoHINGE RING D",
  "OWN INDEX THUMB HOOK MIDDLEzoANGLE RING DOWN MIDDLE THUMB INDEX CROSSzpFIST RING UPcRAISED KNU",
  "CKLEoLITTLEqCIRCLE RING LITTLEsOVAL RING LITTLEqANGLE RING LITTLErFIST RING MIDDLEa CONJOINEDj",
  "RAISED KNUCKLESwINDEXfTHUMBpHOOK RING THUMBpFIST INDEX RING LITTLEwCIRCLE INDEX RING LITTLExUR",
  "LICUE INDEX RING LITTLE ONzeHOOK INDEX RING LITTLE OUTdINcUNDERzdCUP INDEX RING LITTLEvHINGE I",
  "NDEX RING LITTLExANGLE INDEX RING LITTLE OUTexFIST MIDDLE DOWNqHINGE MIDDLEmFIST MIDDLE UPoCIR",
  "CLE MIDDLE UPqFIST MIDDLE RAISED KNUCKLEoUP THUMB SIDEzaHOOK MIDDLE THUMBrFIST MIDDLE THUMB LI",
  "TTLEmLITTLEgRING LITTLExCIRCLE MIDDLE RING LITTLEyURLICUE MIDDLE RING LITTLE ONzdP MIDDLE RING",
  " LITTLEwHINGE MIDDLE RING LITTLEyANGLE MIDDLE RING LITTLE OUTdINdyCIRCLE MIDDLE RING LITTLE BE",
  "NTzeLAW MIDDLE RING LITTLE CONJOINEDa SIDEznHOOK MIDDLE RING LITTLE CONJOINED OUTdINdzhINGE IN",
  "DEX HINGEDsFIST INDEX THUMB SIDEvHINGE INDEX THUMB SIDEwFIST INDEX THUMB SIDE THUMB DIAGONALiC",
  "ONJOINEDjBENTkINDEX BENTkBOTH BENTjINDEX HINGEqFORWARD INDEX STRAIGHTiBENTsHOOKeCURLICUEfVE TH",
  "UMB INSIDEzkCLAW INDEX THUMB CURVE THUMB INSIDEzkFIST INDEX THUMB CURVE THUMB UNDERqIRCLExCUP ",
  "INDEX THUMBa OPENuHINGE INDEX THUMB OPENeLARGEga SMALLxANGLE INDEX THUMB OUTdINdrFIST THUMBa H",
  "EELeSIDE DIAGONALiCONJOINEDjBENTjFORWARDhBETWEEN INDEX MIDDLEmMIDDLE RINGlRING LITTLEtUNDER TW",
  "O FINGERSrOVER TWO FINGERSqUNDER THREE FINGERSnFOUR FINGERSsOVER FOUR RAISED KNUCKLESzha HEELo",
  "TOUCH SINGLEgMULTIPLEiBETWEENnGRASP SINGLEgMULTIPLEiBETWEENnSTRIKE SINGLEgMULTIPLEiBETWEENoBRU",
  "SH SINGLEgMULTIPLEiBETWEENnRUB SINGLEgMULTIPLEiBETWEENlSURFACE SYMBOLShBETWEENoQUEEZE LARGE SI",
  "NGLEm%SINGLEmLARGE MULTIPLEo%MULTIPLEnEQUENTIALsFLICK LARGE SINGLEm%SINGLEmLARGE MULTIPLEo%MUL",
  "TIPLEnEQUENTIALqSQUEEZE FLICK ALTERNATINGzaMOVEMENT-HINGE UP DOWN LARGEfSMALLkSEQUENTIALnDOWN ",
  "SEQUENTIALpUP DOWN ALTERNATING LARGEfSMALLzaSIDE TO SIDE SCISSORSzcWALLPLANE FINGER CONTACTyFL",
  "OORPLANE FINGER CONTACTzaWALLPLANE SINGLE STRAIGHT SMALLfMEDIUMgLARGEaSTqWRIST FLEXr:STRAIGHTi",
  "WRIST FLEXkALTERNATINGa WRIST FLEXzeCROSSfTRIPLE STRAIGHT MOVEMENTrWRIST FLEXkALTERNATINGa WRI",
  "ST FLEXzeBEND SMALLfMEDIUMgLARGEkCORNER SMALLfMEDIUMgLARGEfROTATIONoHECK SMALLfMEDIUMgLARGElBO",
  "X SMALLfMEDIUMgLARGEjZIGZAG SMALLfMEDIUMgLARGEmPEAKS SMALLfMEDIUMgLARGEzfTRAVEL-WALLPLANE ROTA",
  "TION-WALLPLANE SINGLEgDOUBLEgALTERNATINGvFLOORPLANE SINGLEgDOUBLEgALTERNATINGzgSHAKINGhARM SPI",
  "RAL SINGLEgDOUBLEgTRIPLEzjMOVEMENT-DIAGONAL AWAY SMALLfMEDIUMgLARGEaSTmTOWARDS SMALLfMEDIUMgLA",
  "RGEaSTpBETWEEN AWAY SMALLfMEDIUMgLARGEaSTmTOWARDS SMALLfMEDIUMgLARGEaSTzhFLOORPLANE SINGLE STR",
  "AIGHT SMALLfMEDIUMgLARGEaSTqWRIST FLEXr:STRAIGHTiWRIST FLEXkALTERNATINGa WRIST FLEXzeCROSSfTRI",
  "PLE STRAIGHT MOVEMENTrWRIST FLEXkALTERNATING MOVEMENTiWRIST FLEXzeBENDeCORNER SMALLfMEDIUMgLAR",
  "GElHECKfBOX SMALLfMEDIUMgLARGEjZIGZAG SMALLfMEDIUMgLARGEmPEAKS SMALLfMEDIUMgLARGEzgTRAVEL-FLOO",
  "RPLANE ROTATION-FLOORPLANE SINGLEgDOUBLEgALTERNATINGwWALLPLANE SINGLEgDOUBLEgALTERNATINGzfSHAK",
  "INGzaMOVEMENT-WALLPLANE CURVE QUARTER SMALLfMEDIUMgLARGEaSTpHALF-CIRCLE SMALLfMEDIUMgLARGEaSTt",
  "THREE-QUARTER CIRCLE SMALLfMEDIUMziHUMP SMALLfMEDIUMgLARGEkLOOP SMALLfMEDIUMgLARGEf%DOUBLErWAV",
  "E CURVE :SMALLfMEDIUMgLARGEmTRIPLE SMALLfMEDIUMgLARGExCURVE THEN STRAIGHToD CROSS SMALLfMEDIUM",
  "znROTATION-WALLPLANE SINGLEgDOUBLEgALTERNATEzdMOVEMENT-WALLPLANE SHAKINGhCURVE HITTING FRONT W",
  "ALLyHUMP HITTING FRONT WALLxLOOP HITTING FRONT WALLxWAVE HITTING FRONT WALLzrROTATION-WALLPLAN",
  "E SINGLE HITTING FRONT WALLza:HITTING FRONT WALLzaALTERNATING HITTING FRONT WALLzyMOVEMENT-WAL",
  "LPLANE CURVE HITTING CHESTtHUMP HITTING CHESTsLOOP HITTING CHESTsWAVE HITTING CHESTzmROTATION-",
  "WALLPLANE SINGLE HITTING CHESTu:HITTING CHESTuALTERNATING HITTING CHESTztMOVEMENT-WALLPLANE WA",
  "VE DIAGONAL PATH SMALLfMEDIUMgLARGEzjFLOORPLANE CURVE HITTING CEILING SMALLfLARGEzcHUMP HITTIN",
  "G CEILING %DOUBLEmLARGE DOUBLEm%TRIPLEmLARGE TRIPLEziLOOP HITTING CEILING %SINGLEmLARGE SINGLE",
  "m%DOUBLEmLARGE DOUBLEziWAVE HITTING CEILING SMALLfLARGEzvROTATION-FLOORPLANE SINGLE HITTING CE",
  "ILINGw:HITTING CEILINGwALTERNATING HITTING CEILINGzwMOVEMENT-FLOORPLANE CURVE HITTING FLOOR SM",
  "ALLfLARGEzaHUMP HITTING FLOOR %DOUBLEmLARGE DOUBLEmTRIPLE %TRIPLEmLARGE TRIPLEznLOOP HITTING F",
  "LOOR %SINGLEmLARGE SINGLEm%DOUBLEmLARGE DOUBLEzgWAVE HITTING FLOOR SMALLfLARGEztROTATION-FLOOR",
  "PLANE SINGLE HITTING FLOORu:HITTING FLOORuALTERNATING HITTING FLOORzuMOVEMENT-FLOORPLANE CURVE",
  " SMALLfMEDIUMgLARGEaSThCOMBINEDoHUMP SMALLkLOOP SMALLkWAVE SNAKEeMALLfLARGEzfROTATION-FLOORPLA",
  "NE SINGLEgDOUBLEgALTERNATINGzgMOVEMENT-FLOORPLANE SHAKING PARALLELzcWALLPLANE ARM CIRCLE %SING",
  "LEmMEDIUM SINGLEn%DOUBLEmMEDIUM DOUBLEzjFLOORPLANE ARM CIRCLE HITTING WALL %SINGLEmMEDIUM SING",
  "LEnLARGE SINGLEm%DOUBLEmMEDIUM DOUBLEnLARGE DOUBLEzwWALLPLANE WRIST CIRCLE FRONT SINGLEgDOUBLE",
  "zkFLOORPLANE WRIST CIRCLE HITTING WALL SINGLEgDOUBLEzsWALLPLANE FINGER CIRCLES SINGLEgDOUBLEzg",
  "FLOORPLANE FINGER CIRCLES HITTING WALL SINGLEgDOUBLEzzeDYNAMIC ^HEAD SMALLfLARGEpFASTeSLOWeTEN",
  "SEfRELAXEDhSIMULTANEOUSa ALTERNATINGyEVERY OTHER TIMEqGRADUALpHEADa RIMdMOVEMENT-WALLPLANE STR",
  "AIGHTiTILToFLOORPLANE STRAIGHTtWALLPLANE CURVEpFLOORPLANE CURVEr CIRCLEuFACE DIRECTION POSITIO",
  "N NOSE FORWARD TILTINGpUP OR DOWNa TILTINGzwEYEBROWS STRAIGHT UPcNEUTRALhDOWNwDREAMY EYEBROWS ",
  "NEUTRAL DOWNmDOWN NEUTRALmUP NEUTRALkNEUTRAL UPzbFOREHEAD NEUTRALhCONTACThWRINKLEDrEYES OPENeS",
  "QUEEZEDiCLOSEDi BLINK SINGLEgMULTIPLEpS HALF OPENjWIDE OPENjHALF CLOSEDlWIDENING MOVEMENTt WIN",
  "KfLASHES UPcDOWNeFLUTTERINGrGAZE-WALLPLANE STRAIGHTa DOUBLEgALTERNATINGzfFLOORPLANE STRAIGHTa ",
  "DOUBLEgALTERNATINGzgWALLPLANE CURVEDqFLOORPLANE CURVEDrWALLPLANE CIRCLINGzbCHEEKS PUFFEDgNEUTR",
  "ALhSUCKEDnTENSE CHEEKS HIGHeMIDDLEgLOWqEARSeNOSE NEUTRALhCONTACThWRINKLEShIGGLESmAIR BLOWING O",
  "UTlSUCKING INkBLOW %ROTATIONSuSUCK %ROTATIONSyBREATH INHALEgEXHALEnMOUTH CLOSED NEUTRALhFORWAR",
  "DhCONTACToSMILEa WRINKLEDiOPENkFROWNa WRINKLEDiOPENkOPEN CIRCLEgFORWARDhWRINKLEDiOVALa WRINKLE",
  "DiYAWNjRECTANGLEa WRINKLEDiYAWNtKISSa FORWARDhWRINKLEDnTENSEa FORWARDhSUCKEDsLIPS PRESSED TOGE",
  "THERs LOWER OVER UPPERqUPPER OVER LOWERuMOUTH CORNERShWRINKLES SINGLEgDOUBLEvTONGUE STICKING O",
  "UT FARqLICKING LIPSmTIP BETWEEN LIPSmTOUCHING INSIDE MOUTHzaINSIDE MOUTH RELAXEDuMOVES AGAINST",
  " CHEEKtCENTRE STICKING OUTmINSIDE MOUTHzaEETHa MOVEMENTiON TONGUEa MOVEMENTpLIPSa MOVEMENTqBIT",
  "E LIPSpMOVEMENT-WALLPLANE JAWnFLOORPLANE JAWxNECKeHAIReEXCITEMENTkSHOULDER HIP SPINEfPOSITIONS",
  "wWALLPLANE SHOULDER HIP MOVEzcFLOORPLANE SHOULDER HIP MOVEzdSHOULDER TILTING FROM WAISTzcTORSO",
  "-WALLPLANE STRAIGHT STRETCHqCURVED BENDvFLOORPLANE TWISTINGzaUPPER BODY TILTING FROM HIP JOINT",
  "SzjLIMB COMBINATIONlLENGTH-1b2b3b4b5b6b7nFINGERgLOCATION-WALLPLANE SPACEpFLOORPLANE SPACEr HEI",
  "GHTgWIDTHfDEPTHfHEAD NECKjTORSOfLIMBS DIGITSvCOMMAfFULL STOPjSEMICOLONjCOLONfPARENTHESIS@1da9b",
  "@lFILL MODIFIER-2b3b4b5b6@1daa1@pROTATION MODIFIER-2b3b4b5b6b7b8b9b10b1b2b3b4b5b6@1df00@zhLATI",
  "N %!FENG DIGRAPH#TRILLxREVERSED SCRIPT Gzf!%$TURNED Gze%!REVERSED Kx!%$L#BELTzh%!LEZH#RETROFLE",
  "X HOOKyTURNED Y#BELTsREVERSED ENGmTURNED R#LONG LEG&RETROFLEX HOOKzp#HOOK&RETROFLEX HOOKzs!RET",
  "ROFLEX CLICK#RETROFLEX HOOKzr%!ESH#:BARa&CURLzdTURNED T#CURLzg!INVERTED GLOTTAL STOP#CURLzgSTR",
  "ETCHED C#CURLuMALL $TURNED Kze%!L#FISHHOOKpDEZH DIGRAPH#PALATAL HOOKzfL#BELT&PALATAL HOOKzdENG",
  "#PALATAL HOOKvTURNED R#PALATAL HOOKzbR#FISHHOOK&PALATAL HOOKzhTESH DIGRAPH#PALATAL HOOKzfEZH#P",
  "ALATAL HOOKvDEZH DIGRAPH#RETROFLEX HOOKzhI#STROKE&RETROFLEX HOOKzhO#RETROFLEX HOOKvTESH DIGRAP",
  "H#RETROFLEX HOOKzhC#RETROFLEX HOOKvS#CURL@1e000@zfCOMBINING GLAGOLITIC !AZUdBUKYeVEDEeGLAGOLIh",
  "DOBROfYESTUfZHIVETE@1e008@gEMLJAgIZHEdNITIAL IZHElbDJERVIgKAKOeLJUDIJEhMYSLITEhNASHIfONUdPOKOJ",
  "IgRITSIfSLOVOfTVRIDOgUKUdFRITUfHERU@1e01b@eSHTAeTSIdCHRIVIgSHAdYERUbIdATI@1e023@dUc%YUS@1e026@",
  "jYOcIOTATED %YUSrBIG YUShIOTATED BIG YUSpFITA@1e100@zhNYIAKENG PUACHUE HMONG !MAcTSAdNTAdTAcHA",
  "cNAcXAcNKAdCAcLAcSAcZAcNCAcTSAeKAcDAcNYAcRAdVAcNTXAeTXAdFAcRAcQAcYAcNQAdPAcXYAdNPAdDLAdNPLAeHA",
  "HdMLAdPLAdGAcRRAdAaAcIbUbOaOcEaEcW@1e130@iTONE-BbMbJbVbSbGbDgSIGN FOR PERSONgTHINGfLOCATIONiAN",
  "IMALgINVERTEBRATEqXW XWjYLLABLE LENGTHENER@1e140@tDIGIT ZEROeONEdTWOcHREEfFOURdIVEeSIXcEVENfEI",
  "GHTfNINE@1e14e@kLOGOGRAM NYAJnCIRCLED CA@1e290@ziTOTO !PAcBAcTAcDAcKAcGAcMAcNAbGAdSAcCHAdYAcWA",
  "cJAcHAcRAcLAcIbBREATHY IjIUcBREATHY IUkUbEbBREATHY EjEOcBREATHY EOkObAEcBREATHY AEkAiSIGN RISI",
  "NG TONE@1e2c0@vWANCHO !AAbbBAcCAcDAcGAcYAcPHAdLAcNAcPAcTAbHAdFAcSAbHAdJAcZAcWAcVAcKAcObAUcRAcM",
  "AcKHAdHAcEbIbNGAdUbLLHAeTSAcRAdONGdAANGdNGdINGdONcENcAANdNYAdUENdYIHkTONE TUPaNIfKOIaNIkDIGIT ",
  "ZEROeONEdTWOcHREEfFOURdIVEeSIXcEVENfEIGHTfNINE@1e2ff@kNGUN.@1e7e0@qETHIOPIC _HHYAbUbIbAAcEEbbO",
  "@1e7e8@eGURAGE HHWAlHHWIbEEb@1e7ed@eGURAGE MWIbEE@1e7f0@eQWIbEEbdBWIbEEeKWIbEEbdGWIbEEbdFWIbEE",
  "ePWIbEE@1e800@zeMENDE KIKAKUI _M001 KIe2 KAe3 KUf65 KEEg95 KEf76 KOOg48 KOg179 KUAh004 WIe5 WA",
  "e6 WUg126 WEEg18 WEe4 WOOh045 WOg194 WUIg43 WEIh061 WVIg49 WVAh139 WVEh007 MINf8 MANf9 MUNg59 ",
  "MENg94 MONh154 MUANh89 MUENi010 BIe1 BAe2 BUg150 BEEh097 BEg103 BOOg38 BOg013 Id4 Ad5 Uf163 EE",
  "f00 Ee65 OOf47 Oe37 EIe1 INe5 INf95 ANf78 ENg019 SIf20 SAe1 SUg162 SEEg16 SEf36 SOOh079 SOg196",
  " SIAh025 LIe6 LAe7 LUf84 LEEg73 LEf54 LOOh153 LOf10 LONG LEl016 DIe7 DAe8 DUf89 DEEh180 DOOf1 ",
  "DOg022 TIe3 TAe4 TUf91 TEEg55 TEg104 TOOh069 TOf28 JIe9 JAf30 JUg157 JEEg13 JEf60 JOOh063 JOg1",
  "75 LONG JOl031 YIe2 YAe3 YUg109 YEEh080 YEg141 YOOg21 YOg034 FIe5 FAe6 FUf78 FEEf5 FEg133 FOOh",
  "088 FOg197 FUAg01 FANh037 NINf8 NANf9 NUNh117 NENg69 NONg76 HIg041 HAg186 HUg040 HEEg96 HEf42 ",
  "HOOh140 HOg083 HEEIi128 HOOUi053 HINh130 HANh087 HUNg52 HENh193 HONh046 HUANh90 NGGIh43 NGGAh8",
  "2 NGGUi115 NGGEEi46 NGGEh56 NGGOOi20 NGGOh59 NGGAAi27 NGGUAj086 LONG NGGEn106 LONG NGGOOn83 LO",
  "NG NGGOm55 GIf11 GAf68 GUf90 GEEg66 GUEIg7 GUANh84 NGENi057 NGONi177 NGUANj068 PIf99 PAf50 PUf",
  "81 PEEg51 PEg102 POOh066 POg145 MBIh062 MBAh122 MBUh047 MBEEi188 MBEEi072 MBEh172 MBOOg4 MBOg8",
  "7 MBUUh61 LONG MBEl05 LONG MBOOm42 LONG MBOl32 KPIh092 KPAg74 KPUg44 KPEEi108 KPEg12 KPOOh58 K",
  "POg24 GBIh056 GBAh148 GBUh093 GBEEi107 GBEh071 GBOOg0 GBOh171 RAf23 NDIf9 NDAf5 NDUg91 NDEEh19",
  " NDEh067 NDOOg4 NDOh152 NJAg92 NJUg49 NJEEh34 NJOOh82 VIe5 VAf51 VUf73 VEEh085 VEg144 VOOh077 ",
  "VOg164 NYINi058 NYANi170 NYUNi098 NYENh60 NYON@1e8c7@sDIGIT ONEdTWOcHREEfFOURdIVEeSIXcEVENfEIG",
  "HTfNINEkCOMBINING NUMBER TEENSdNSeHUNDREDSiTHOUSANDSiEN THOUSANDSnHUNDRED THOUSANDSrMILLIONS@1",
  "e900@zoADLAM $!ALIFeDAALIfLAAMeMIIMeBAcSINNYIIYHEkPEcBHEdRAcEbFAcIbObDHAdYHEdWAWdNUNdKAFdYAcUb",
  "JIIMeCHIdHAcQAAFeGAcNYAdTUcNHAdVAcKHAdGBEdZALdKPOdSHAs%!ALIFeDAALIfLAAMeMIIMeBAcSINNYIIYHEkPEc",
  "BHEdRAcEbFAcIbObDHAdYHEdWAWdNUNdKAFdYAcUbJIIMeCHIdHAcQAAFeGAcNYAdTUcNHAdVAcKHAdGBEdZALdKPOdSHA",
  "qALIF LENGTHENERpVOWEL LENGTHENERqGEMINATION?pHAMZAfCONSONANT MODIFIERsGEMINATE CONSONANT MODI",
  "FIERzcNUKTAeASALIZATION?@1e950@rDIGIT ZEROeONEdTWOcHREEfFOURdIVEeSIXcEVENfEIGHTfNINE@1e95e@kIN",
  "ITIAL EXCLAMATION?qQUESTION?@1ec71@zcINDIC SIYAQ NUMBER ONEdTWOcHREEfFOURdIVEeSIXcEVENfEIGHTfN",
  "INEeTENcWENTYfHIRTYgFORTYeIFTYfSIXTYeEVENTYhEIGHTYgNINETYgONE HUNDREDlTWO HUNDREDkHREE HUNDRED",
  "nFOUR HUNDREDlIVE HUNDREDmSIX HUNDREDkEVEN HUNDREDnEIGHT HUNDREDnNINE HUNDREDmONE THOUSANDmTWO",
  " THOUSANDlHREE THOUSANDoFOUR THOUSANDmIVE THOUSANDnSIX THOUSANDlEVEN THOUSANDoEIGHT THOUSANDoN",
  "INE THOUSANDnTEN THOUSANDlWENTY THOUSANDoHIRTY THOUSANDpFORTY THOUSANDnIFTY THOUSANDoSIXTY THO",
  "USANDnEVENTY THOUSANDqEIGHTY THOUSANDpNINETY THOUSANDpLAKHaANnLAKH?jNUMBER KARORaANhPREFIXED O",
  "NEdTWOcHREEfFOURdIVEeSIXcEVENfEIGHTfNINEuPLACEHOLDERlFRACTION ONE QUARTERhHALFiTHREE QUARTERSx",
  "RUPEE?kNUMBER ALTERNATE ONEdTWOcEN THOUSANDzeALTERNATE LAKH?@1ed01@zgOTTOMAN SIYAQ NUMBER ONEd",
  "TWOcHREEfFOURdIVEeSIXcEVENfEIGHTfNINEeTENcWENTYfHIRTYgFORTYeIFTYfSIXTYeEVENTYhEIGHTYgNINETYgON",
  "E HUNDREDlTWO HUNDREDkHREE HUNDREDnFOUR HUNDREDlIVE HUNDREDmSIX HUNDREDkEVEN HUNDREDnEIGHT HUN",
  "DREDnNINE HUNDREDmONE THOUSANDmTWO THOUSANDlHREE THOUSANDoFOUR THOUSANDmIVE THOUSANDnSIX THOUS",
  "ANDlEVEN THOUSANDoEIGHT THOUSANDoNINE THOUSANDnTEN THOUSANDlWENTY THOUSANDoHIRTY THOUSANDpFORT",
  "Y THOUSANDnIFTY THOUSANDoSIXTY THOUSANDnEVENTY THOUSANDqEIGHTY THOUSANDpNINETY THOUSANDwMARRAT",
  "ANiALTERNATE NUMBER TWOcHREEfFOURdIVEeSIXcEVENfEIGHTfNINEeTENdFOUR HUNDREDmSIX HUNDREDlTWO THO",
  "USANDlEN THOUSANDzeFRACTION ONE HALFeSIXTH@1ee00@zhARABIC MATHEMATICAL ALEFeBEHdJEEMeDAL@1ee05",
  "@dWAWdZAINeHAHdTAHdYEHdKAFdLAMdMEEMeNOONeSEENeAINdFEHdSADdQAFdREHdSHEENfTEHcHEHeKHAHeTHALeDADd",
  "ZAHdGHAINfDOTLESS BEHdNOONeFEHdQAF@1ee21@lINITIAL BEHdJEEM@1ee24@eHEH@1ee27@cAH@1ee29@dYEHdKAF",
  "dLAMdMEEMeNOONeSEENeAINdFEHdSADdQAF@1ee34@dSHEENfTEHcHEHeKHAH@1ee39@eDAD@1ee3b@dGHAIN@1ee42@nT",
  "AILED JEEM@1ee47@eHAH@1ee49@dYEH@1ee4b@dLAM@1ee4d@dNOONeSEENeAIN@1ee51@dSADdQAF@1ee54@dSHEEN@1",
  "ee57@fKHAH@1ee59@eDAD@1ee5b@dGHAIN@1ee5d@fDOTLESS NOON@1ee5f@eQAF@1ee61@sSTRETCHED BEHdJEEM@1e",
  "e64@eHEH@1ee67@cAHdTAHdYEHdKAF@1ee6c@dMEEMeNOONeSEENeAINdFEHdSADdQAF@1ee74@dSHEENfTEHcHEHeKHAH",
  "@1ee79@eDADdZAHdGHAINfDOTLESS BEH@1ee7e@dFEH@1ee80@vLOOPED ALEFeBEHdJEEMeDALdHEHdWAWdZAINeHAHd",
  "TAHdYEH@1ee8b@dLAMdMEEMeNOONeSEENeAINdFEHdSADdQAFdREHdSHEENfTEHcHEHeKHAHeTHALeDADdZAHdGHAIN@1e",
  "ea1@mDOUBLE-STRUCK BEHdJEEMeDAL@1eea5@dWAWdZAINeHAHdTAHdYEH@1eeab@dLAMdMEEMeNOONeSEENeAINdFEHd",
  "SADdQAFdREHdSHEENfTEHcHEHeKHAHeTHALeDADdZAHdGHAIN@1eef0@tOPERATOR MEEM#HAH#TATWEELzbHAH#DAL@1f",
  "000@zqMAHJONG TILE EAST WINDjSOUTH WINDkWEST WINDjNORTH WINDkRED DRAGONkGREEN DRAGONmWHITE DRA",
  "GONmONE OF CHARACTERSrTWO OF CHARACTERSqHREE OF CHARACTERStFOUR OF CHARACTERSrIVE OF CHARACTER",
  "SsSIX OF CHARACTERSqEVEN OF CHARACTERStEIGHT OF CHARACTERStNINE OF CHARACTERSsONE OF BAMBOOSoT",
  "WO OF BAMBOOSnHREE OF BAMBOOSqFOUR OF BAMBOOSoIVE OF BAMBOOSpSIX OF BAMBOOSnEVEN OF BAMBOOSqEI",
  "GHT OF BAMBOOSqNINE OF BAMBOOSpONE OF CIRCLESoTWO OF CIRCLESnHREE OF CIRCLESqFOUR OF CIRCLESoI",
  "VE OF CIRCLESpSIX OF CIRCLESnEVEN OF CIRCLESqEIGHT OF CIRCLESqNINE OF CIRCLESpPLUMeORCHIDgBAMB",
  "OOgCHRYSANTHEMUMnSPRINGfUMMERgAUTUMNgWINTERgJOKERfBACK@1f030@rDOMINO TILE (BACKf-00-00b1b2b3b4",
  "b5b6e1-00b1b2b3b4b5b6e2-00b1b2b3b4b5b6e3-00b1b2b3b4b5b6e4-00b1b2b3b4b5b6e5-00b1b2b3b4b5b6e6-00",
  "b1b2b3b4b5b6q|BACKf-00-00b1b2b3b4b5b6e1-00b1b2b3b4b5b6e2-00b1b2b3b4b5b6e3-00b1b2b3b4b5b6e4-00b",
  "1b2b3b4b5b6e5-00b1b2b3b4b5b6e6-00b1b2b3b4b5b6@1f0a0@zbPLAYING CARD BACKeACE OF SPADESnTWO OF S",
  "PADESmHREE OF SPADESpFOUR OF SPADESnIVE OF SPADESoSIX OF SPADESmEVEN OF SPADESpEIGHT OF SPADES",
  "pNINE OF SPADESoTEN OF SPADESnJACK OF SPADESoKNIGHT OF SPADESqQUEEN OF SPADESpKING OF SPADES@1",
  "f0b1@oACE OF HEARTSnTWO OF HEARTSmHREE OF HEARTSpFOUR OF HEARTSnIVE OF HEARTSoSIX OF HEARTSmEV",
  "EN OF HEARTSpEIGHT OF HEARTSpNINE OF HEARTSoTEN OF HEARTSnJACK OF HEARTSoKNIGHT OF HEARTSqQUEE",
  "N OF HEARTSpKING OF HEARTSoRED JOKER@1f0c1@jACE OF DIAMONDSpTWO OF DIAMONDSoHREE OF DIAMONDSrF",
  "OUR OF DIAMONDSpIVE OF DIAMONDSqSIX OF DIAMONDSoEVEN OF DIAMONDSrEIGHT OF DIAMONDSrNINE OF DIA",
  "MONDSqTEN OF DIAMONDSpJACK OF DIAMONDSqKNIGHT OF DIAMONDSsQUEEN OF DIAMONDSrKING OF DIAMONDSq)",
  "JOKER@1f0d1@lACE OF CLUBSmTWO OF CLUBSlHREE OF CLUBSoFOUR OF CLUBSmIVE OF CLUBSnSIX OF CLUBSlE",
  "VEN OF CLUBSoEIGHT OF CLUBSoNINE OF CLUBSnTEN OF CLUBSmJACK OF CLUBSnKNIGHT OF CLUBSpQUEEN OF ",
  "CLUBSoKING OF CLUBSnWHITE JOKERlFOOLeTRUMP-1b2b3b4b5b6b7b8b9b10b1b2b3b4b5b6b7b8b9c20b1@1f100@v",
  "DIGIT ZERO FULL STOPjCOMMAkONE COMMAjTWO COMMAiHREE COMMAlFOUR COMMAjIVE COMMAkSIX COMMAiEVEN ",
  "COMMAlEIGHT COMMAlNINE COMMAoNGBAT CIRCLED SANS-SERIF DIGIT ZEROzeNEGATIVE CIRCLED SANS-SERIF ",
  "DIGIT ZEROzvCIRCLED ZERO#SLASHpANTICLOCKWISE ^tDOLLAR.#OVERLAID BACKSLASHzsPARENTHESIZED LATIN",
  " $!AbBbCbDbEbFbGbHbIbJbKbLbMbNbObPbQbRbSbTbUbVbWbXbYbZzlTORTOISE SHELL BRACKETED LATIN $!SzwCI",
  "RCLED ITALIC LATIN $!CbRzeCDcWZjOPY[SYMBOLpSQUARED LATIN $!AbBbCbDbEbFbGbHbIbJbKbLbMbNbObPbQbR",
  "bSbTbUbVbWbXbYbZwHVcMVcSDbScPPVdWCkNEGATIVE CIRCLED LATIN $!AbBbCbDbEbFbGbHbIbJbKbLbMbNbObPbQb",
  "RbSbTbUbVbWbXbYbZzoRAISED MC.gD.gR.oCIRCLED CCb#OVERLAID BACKSLASHzaHUMAN FIGUREuNEGATIVE SQUA",
  "RED LATIN $!AbBbCbDbEbFbGbHbIbJbKbLbMbNbObPbQbRbSbTbUbVbWbXbYbZzoCROSSED NEGATIVE SQUARED LATI",
  "N $!PzwNEGATIVE SQUARED ICcPAcSAcABcWCtSQUARE DJdD CLbOOLeFREEeIDcNEWcGcOKcSOSdUP#EXCLAMATION?",
  "yVScTHREE DhSECOND SCREENnTWO KfFOUR KgEIGHT KhFIVE POINT ONEoSEVEN POINT ONEpTWENTY-TWO POINT",
  " TWOuSIXTY PhONE HUNDRED TWENTY PuLATIN %!DuHCbDRcI-RESgLOSSLESSiSHVdUHDdVODlMASK WORK SYMBOL@",
  "1f1e6@qREGIONAL INDICATOR ~!AbBbCbDbEbFbGbHbIbJbKbLbMbNbObPbQbRbSbTbUbVbWbXbYbZzjSQUARE HIRAGA",
  "NA HOKAoD KATAKANA KOKOeSA@1f210@lCJK UNIFIED IDEOGRAPH-624Be5B57d3CCzbKATAKANA DElCJK UNIFIED",
  " IDEOGRAPH-4E8Ce591Ae89E3e5929e4EA4e6620e7121e6599e524DdF8Cd18De65B0e521De7D42d51Fe8CA9e58F0d4",
  "39e6F14d295d355e4E00b9e904Ae5DE6e4E2De53F3e6307e8D70e6253e7981dA7Ae5408e6E80d709b8e7533e5272d5",
  "B6e914D@1f240@zjTORTOISE SHELL BRACKETED CJK UNIFIED IDEOGRAPH-672Ce4E09c8Ce5B89e70B9e6253e76D",
  "7e52DDe6557@1f250@zzbCIRCLED IDEOGRAPH ADVANTAGEiCCEPT@1f260@yROUNDED ~FOR FUcLUcSHOUeXIcSHUAN",
  "GXIiCAI@1f300@wCYCLONEhFOGGYfCLOSED UMBRELLApNIGHT#STARSqSUNRISE OVER MOUNTAINSphCITYSCAPE AT ",
  "DUSKrSUNSET OVER BUILDINGSvRAINBOWhBRIDGE AT NIGHTpWATER WAVEkVOLCANOhMILKY WAYjEARTH GLOBE EU",
  "ROPE-AFRICAnAMERICAShSIA-AUSTRALIAzbGLOBE#MERIDIANSuNEW MOON SYMBOLpWAXING CRESCENT MOON SYMBO",
  "LzcFIRST QUARTER MOON SYMBOLzaWAXING GIBBOUS MOON SYMBOLzbFULL MOON SYMBOLqWANING GIBBOUS MOON",
  " SYMBOLzbLAST QUARTER MOON SYMBOLyWANING CRESCENT MOON SYMBOLzcCRESCENT MOONnNEW MOON#FACEsFIR",
  "ST QUARTER MOON#FACEzdLAST QUARTER MOON#FACEzcFULL MOON#FACEtSUN#FACEnGLOWING STARmSHOOTING ST",
  "ARnTHERMOMETERl)DROPLETnWHITE SUNa#%CLOUDqBEHIND CLOUDa#RAINzhCLOUD#RAINeSNOWeLIGHTNINGjTORNAD",
  "OsFOGdWIND BLOWING FACErHOT DOGhTACOeBURRITOhCHESTNUTiSEEDLINGiEVERGREEN TREEoDECIDUOUS TREEoP",
  "ALM TREEjCACTUSgHOT PEPPERkTULIPfCHERRY BLOSSOMoROSEeHIBISCUSiSUNFLOWERjBLOSSOMhEAR OF MAIZEfR",
  "ICElHERBeFOUR LEAF CLOVERqMAPLE LEAFkFALLEN LEAFlLEAF FLUTTERING IN WINDxMUSHROOMiTOMATOgAUBER",
  "GINEjGRAPESgMELONfWATERMELONkTANGERINEjLEMONfBANANAgPINEAPPLEjRED APPLEjGREEN APPLElPEARbCHfCH",
  "ERRIESiSTRAWBERRYkHAMBURGERjSLICE OF PIZZAoMEAT ON BONEmPOULTRY LEGlRICE CRACKERhBALLjCOOKED R",
  "ICEkURRY&RICEoSTEAMING BOWLmPAGHETTIjBREADfFRENCH FRIESmROASTED SWEET POTATOuDANGOfODENeSUSHIf",
  "FRIED SHRIMPlISH CAKE#SWIRL DESIGNzcSOFT ICE CREAMnHAVED ICEkICE CREAMjDOUGHNUTiCOOKIEfHOCOLAT",
  "E BARmANDYfLOLLIPOPiCUSTARDhHONEY POTjSHORTCAKEjBENTO BOXjPOT OF FOODlCOOKINGhFORK&KNIFEoTEACU",
  "P WITHOUT HANDLEvSAKE BOTTLE&CUPtWINE GLASSkCOCKTAIL GLASSoTROPICAL DRINKoBEER MUGiCLINKING BE",
  "ER MUGSsBABY BOTTLElFORK&KNIFE#PLATEzaBOTTLE#POPPING CORKyPOPCORNhRIBBONgWRAPPED PRESENTpBIRTH",
  "DAY CAKEnJACK-O-LANTERNoCHRISTMAS TREEoFATHER CHRISTMASpIREWORKSb SPARKLERrBALLOONhPARTY POPPE",
  "RmCONFETTI BALLnTANABATA TREEnCROSSED FLAGSnPINE DECORATIONpJAPANESE DOLLSoCARP STREAMERnWIND ",
  "CHIMEkMOON VIEWING CEREMONYvSCHOOL SATCHELoGRADUATION CAPoHEART#TIP ON THE LEFTzbBOUQUET OF FL",
  "OWERSsMILITARY MEDALoREMINDER RIBBONpMUSICAL KEYBOARD#JACKSzcSTUDIO MICROPHONErLEVEL SLIDERmCO",
  "NTROL KNOBSnBEAMED ASCENDING MUSICAL NOTESxDESCENDING MUSICAL NOTESzgFILM FRAMESlADMISSION TIC",
  "KETSrCAROUSEL HORSEoFERRIS WHEELmROLLER COASTERoFISHING POLE&FISHvMICROPHONEjOVIE CAMERAmCINEM",
  "AgHEADPHONEjARTIST PALETTEoTOP HAThCIRCUS TENTlTICKETgCLAPPER BOARDnPERFORMING ARTSpVIDEO GAME",
  "kDIRECT HITkSLOT MACHINEmBILLIARDSjGAME DIEiBOWLINGhFLOWER PLAYING CARDSuMUSICAL NOTEkLTIPLE M",
  "USICAL NOTESwSAXOPHONEjGUITARgMUSICAL KEYBOARDqTRUMPEThVIOLINgMUSICAL SCOREnRUNNING SHIRT#SASH",
  "xTENNIS RACQUET&BALLxSKI&SKI BOOTqBASKETBALL&HOOPtCHEQUERED FLAGoSNOWBOARDERlRUNNERgSURFERfPOR",
  "TS MEDALmTROPHYgHORSE RACINGmAMERICAN FOOTBALLrRUGBY FOOTBALLoSWIMMERhWEIGHT LIFTERnGOLFERgRAC",
  "ING MOTORCYCLEkCARkCRICKET BAT&BALLuVOLLEYBALLkFIELD HOCKEY STICK&BALLzcICE HOCKEY STICK&PUCKz",
  "aTABLE TENNIS PADDLE&BALLzdSNOW CAPPED MOUNTAINuCAMPINGhBEACH#UMBRELLAsUILDING CONSTRUCTIONvHO",
  "USE BUILDINGSpCITYSCAPEjDERELICT HOUSE BUILDINGxCLASSICAL BUILDINGsDESERTa ISLANDnNATIONAL PAR",
  "KnSTADIUMhHOUSE BUILDINGiWITH GARDENrOFFICE BUILDINGpJAPANESE POST OFFICEuEUROPEAN POST OFFICE",
  "uHOSPITALiBANKeAUTOMATED TELLER MACHINEyHOTELfLOVE HOTELkCONVENIENCE STORErSCHOOLgDEPARTMENT S",
  "TOREqFACTORYhIZAKAYA LANTERNpJAPANESE CASTLEpEUROPEAN CASTLEpWHITE PENNANTn)PENNANTnWAVING WHI",
  "TE FLAGk)FLAGrROSETTEh)ROSETTEnLABELfBADMINTON RACQUET&SHUTTLECOCKzhOW&^nAMPHORAhEMOJI MODIFIE",
  "R FITZPATRICK TYPE-1-2d3b4b5b6ziRATdMOUSEfOXcWATER BUFFALOnCOWdTIGERfLEOPARDhRABBITgCATdDRAGON",
  "gCROCODILEjWHALEfSNAILcKEfHORSEfRAMdGOATeSHEEPfMONKEYgROOSTERhCHICKENhDOGdPIGdBOAReELEPHANTiOC",
  "TOPUShSPIRAL SHELLmBUGdANTdHONEYBEEiLADY BEETLElFISHeTROPICAL FISHnBLOWFISHiTURTLEgHATCHING CH",
  "ICKoBABY CHICKkFRONT-FACING BABY CHICKxBIRDePENGUINhKOALAfPOODLEgDROMEDARY CAMELpBACTRIAN CAME",
  "LoDOLPHINhMOUSE FACEkCOW FACEiTIGER FACEkRABBIT FACElCAT FACEiDRAGON FACElSPOUTING WHALEoHORSE",
  " FACEkMONKEY FACElDOG FACEiPIG FACEiFROG FACEjHAMSTER FACEmWOLF FACEjBEAR FACEjPANDA FACEjIG N",
  "OSEhAW PRINTSkCHIPMUNKiEYESbcARdNOSEeMOUTHfTONGUEgWHITE UP POINTING BACKHAND INDEXzbDOWN POINT",
  "ING BACKHAND INDEXzd[POINTING BACKHAND INDEXzd]POINTING BACKHAND INDEXzkFISTED HAND.qWAVING HA",
  "ND.qOK HAND.mTHUMBS UP.hDOWN.qCLAPPING HANDS.tOPEN HANDS.pCROWNfWOMANS HATkEYEGLASSESkNECKTIEh",
  "T-SHIRThJEANSfDRESSfKIMONOgBIKINIgWOMANS CLOTHESoPURSEfHANDBAGhPOUCHfMANS SHOEjATHLETIC SHOEnH",
  "IGH-HEELED SHOEqWOMANS SANDALgBOOTSmFOOTPRINTSkBUST IN SILHOUETTEoS IN SILHOUETTEsOYdGIRLeMANd",
  "WOMANfFAMILYgMAN&WOMAN HOLDING HANDSzcTWO MEN HOLDING HANDSrWOMEN HOLDING HANDSxPOLICE OFFICER",
  "oWOMAN#BUNNY EARSvBRIDE#VEILpPERSON#BLOND HAIRwMAN#GUA PI MAOkTURBANpOLDER MANdWOMANlBABYeCONS",
  "TRUCTION WORKERtPRINCESSiJAPANESE OGREeGOBLINpGHOSTfBABY ANGELkEXTRATERRESTRIAL ALIENwALIEN MO",
  "NSTERnIMPdSKULLfINFORMATION DESK PERSONxGUARDSMANjDANCERgLIPSTICKiNAIL POLISHlFACE MASSAGEmHAI",
  "RCUThBARBER POLElSYRINGEhPILLeKISS?jLOVE LETTERlRINGeGEM STONEjKISSeBOUQUEThCOUPLE#HEARTrWEDDI",
  "NGhBEATING HEARTmROKEN HEARTmTWO HEARTSkSPARKLING HEARTpGROWING HEARTnHEART#^qBLUE HEARTkGREEN",
  " HEARTlYELLOW HEARTmPURPLE HEARTmHEART#RIBBONrREVOLVING HEARTSqHEART DECORATIONqDIAMOND SHAPE#",
  "A DOT INSIDEzgELECTRIC LIGHT BULBtANGER SYMBOLmBOMBeSLEEPING SYMBOLpCOLLISION SYMBOLqSPLASHING",
  " SWEAT SYMBOLwDROPLETgASH SYMBOLlPILE OF POOlFLEXED BICEPSnDIZZY SYMBOLmSPEECH BALLOONoTHOUGHT",
  " BALLOONpWHITE FLOWERmHUNDRED POINTS SYMBOLvMONEY BAGjCURRENCY EXCHANGErHEAVY DOLLAR.rCREDIT C",
  "ARDlBANKNOTE#YEN.iDOLLAR.lEURO.jPOUND.yMONEY#WINGSqCHART#UPWARDS TREND&YEN.zmSEATePERSONAL COM",
  "PUTERrBRIEFCASEjMINIDISCiFLOPPY DISKlOPTICAL DISCmDVDdFILE FOLDERlOPEN FILE FOLDERqPAGE#CURLjF",
  "ACING UPoCALENDARiTEAR-OFF CALENDARrCARD INDEXjHART#UPWARDS TRENDnDOWNWARDS TRENDzbBAR CHARTjC",
  "LIPBOARDjPUSHPINhROUND PUSHPINnPAPERCLIPjSTRAIGHT RULERoTRIANGULAR RULERqBOOKMARK TABSnLEDGERg",
  "NOTEBOOKa#DECORATIVE COVERzfCLOSED BOOKlOPEN BOOKjGREEN BOOKkBLUE BOOKjORANGE BOOKlBOOKSfNAME ",
  "BADGEkSCROLLgMEMOeTELEPHONE RECEIVERsPAGERfFAX MACHINElSATELLITE ANTENNArPUBLIC ADDRESS LOUDSP",
  "EAKERzbCHEERING MEGAPHONEsOUTBOX TRAYlINBOX TRAYkPACKAGEhE-MAIL SYMBOLnINCOMING ENVELOPErENVEL",
  "OPE#DOWNWARDS ^+zkCLOSED MAILBOX#LOWERED FLAGmRAISED FLAGzgOPEN MAILBOX#RAISED FLAGlLOWERED FL",
  "AGzfPOSTBOXdAL HORNlNEWSPAPERjMOBILE PHONEa#>^ AT LEFTzrVIBRATION MODEoMOBILE PHONE OFFqNO MOB",
  "ILE PHONESqANTENNA#BARSrCAMERAa#FLASHrVIDEO CAMERAmTELEVISIONkRADIOfVIDEOCASSETTEnFILM PROJECT",
  "ORoPORTABLE STEREOoRAYER BEADSmTWISTED >^SzaCLOCKWISE >AND <OPEN CIRCLE ^Sa#CIRCLED ONE OVERLA",
  "YzzsDOWNWARDS&UPWARDS OPEN CIRCLE ^SzzaANTICLOCKWISE DOWNWARDS&UPWARDS OPEN CIRCLE ^SzzeLOW BR",
  "IGHTNESS SYMBOLvHIGH BRIGHTNESS SYMBOLwSPEAKER#CANCELLATION STROKEzaa#ONE SOUND WAVEoTHREE SOU",
  "ND WAVESzfBATTERYhELECTRIC PLUGnLEFT-POINTING MAGNIFYING GLASSzfRIGHT-POINTING MAGNIFYING GLAS",
  "SzgLOCK#INK PENrCLOSED LOCK#KEYuKEYdLOCKeOPEN LOCKjBELLa#CANCELLATION STROKEzdOOKMARKiLINK SYM",
  "BOLlRADIO BUTTONmBACK#<^+zgEND#<^+zfON#EXCLAMATION?#[]^+zzcSOON#>^+zhTOP#UPWARDS ^+zdNO ONE UN",
  "DER EIGHTEEN SYMBOLzdKEYCAP TENkINPUT ~FOR LATIN $LETTERSp%LETTERStNUMBERShSYMBOLShLATIN LETTE",
  "RSzfFIREeELECTRIC TORCHoWRENCHgHAMMERgNUT&BOLTmHOCHOfPISTOLgMICROSCOPEkTELESCOPEjCRYSTAL BALLm",
  "SIX POINTED STAR#MIDDLE DOTzhJAPANESE ~FOR BEGINNERzdTRIDENT EMBLEMo)SQUARE BUTTONtWHITE SQUAR",
  "E BUTTONtLARGE RED CIRCLEkBLUE CIRCLElORANGE DIAMONDoBLUE DIAMONDs%ORANGE DIAMONDoBLUE DIAMOND",
  "sUP-POINTING RED ;yDOWN-POINTING RED ;zbUP-POINTING %RED ;zfDOWN-POINTING %RED ;zhLOWER ]SHADO",
  "WED WHITE CIRCLEziUPPER ]SHADOWED WHITE CIRCLEziCIRCLED CROSS POMMEEtROSS POMMEE#HALF-CIRCLE,x",
  "mNOTCHED [SEMICIRCLE#THREE DOTSzg]SEMICIRCLE#THREE DOTSzp~FOR?S CHAPTERyWHITE LATIN CROSSrHEAV",
  "Y LATIN CROSSrCELTIC CROSSmOM SYMBOLjDOVE OF PEACEnKAABAfMOSQUEgSYNAGOGUEjMENORAH#NINE BRANCHE",
  "SzbBOWL OF HYGIEIApCLOCK FACE ONE OCLOCKkTWO OCLOCKjHREE OCLOCKmFOUR OCLOCKkIVE OCLOCKlSIX OCL",
  "OCKjEVEN OCLOCKmEIGHT OCLOCKmNINE OCLOCKlTEN OCLOCKkELEVEN OCLOCKnTWELVE OCLOCKnONE-THIRTYkTWO",
  "-THIRTYjHREE-THIRTYmFOUR-THIRTYkIVE-THIRTYlSIX-THIRTYjEVEN-THIRTYmEIGHT-THIRTYmNINE-THIRTYlTEN",
  "-THIRTYkELEVEN-THIRTYnTWELVE-THIRTYy]SPEAKERa#ONE SOUND WAVEoTHREE SOUND WAVESzlBULLHORNa#SOUN",
  "D WAVESzaRINGING BELLmBOOKeCANDLEgMANTELPIECE CLOCKr)SKULL&CROSSBONESzbNO PIRACYjHOLEeMAN IN B",
  "USINESS SUIT LEVITATINGzgSLEUTH OR SPYnDARK SUNGLASSESpSPIDERa WEBkJOYSTICKiMAN DANCINGl[HAND ",
  "TELEPHONE RECEIVERzdTELEPHONE RECEIVER#PAGEzd]HAND TELEPHONE RECEIVERzeWHITE TOUCHTONE TELEPHO",
  "NEza)TOUCHTONE TELEPHONEzaTELEPHONE ON TOP OF MODEMzaCLAMSHELL MOBILE PHONEwBACK OF ENVELOPEqS",
  "TAMPED ENVELOPEqENVELOPE#LIGHTNINGxFLYING ENVELOPEpPEN OVER STAMPED ENVELOPEzaLINKED PAPERCLIP",
  "Sr)PUSHPINnLOWER [PENCILgBALLPOINT PENnFOUNTAIN PENmPAINTBRUSHkCRAYONqEFT WRITING HANDrTURNED ",
  "OK HAND.tRAISED HAND#FINGERS SPLAYEDzgEVERSED RAISED HAND#FINGERS SPLAYEDzhTHUMBS UP.hDOWN.qVI",
  "CTORY HANDmHAND#MIDDLE FINGER EXTENDEDzpAISED HAND#PART BETWEEN MIDDLE&RING FINGERSzzdWHITE DO",
  "WN POINTING [HAND INDEXzkSIDEWAYS WHITE [POINTING INDEXt]POINTING INDEXzb)[POINTING INDEXt]POI",
  "NTING INDEXzk)[POINTING BACKHAND INDEXzd]POINTING BACKHAND INDEXzkSIDEWAYS WHITE UP POINTING I",
  "NDEXrDOWN POINTING INDEXza)UP POINTING INDEXrDOWN POINTING INDEXzj)UP POINTING BACKHAND INDEXz",
  "bDOWN POINTING BACKHAND INDEXzdHEARTlDESKTOP COMPUTERqKEYBOARD&MOUSEsTHREE NETWORKED COMPUTERS",
  "zaPRINTERgOCKET CALCULATORr)HARD SHELL FLOPPY DISKzdWHITE HARD SHELL FLOPPY DISKzdSOFT SHELL F",
  "LOPPY DISKwTAPE CARTRIDGEoWIRED KEYBOARDoONE BUTTON MOUSEqTWO BUTTON MOUSEpHREE BUTTON MOUSErR",
  "ACKBALLjOLD PERSONAL COMPUTERvHARD DISKjSCREENgPRINTER ICONmFAX ICONiOPTICAL DISC ICONrDOCUMEN",
  "T#TEXTa&PICTUREqPICTUREvFRAME#PICTUREhTILESfAN Xp)FOLDERmFOLDERgOPEN FOLDERlCARD INDEX DIVIDER",
  "SoFILE BOXnFILE CABINETmEMPTY NOTEa PAGEcDoNOTEa PAGEcDiEMPTY DOCUMENTiPAGEaSlDOCUMENTiPAGEaSf",
  "WASTEBASKETlSPIRAL NOTE PADiCALENDAR PADtDESKTOP WINDOWoMINIMIZEhAXIMIZEiOVERLAPhCLOCKWISE ]AN",
  "D [SEMICIRCLE ^SzqANCELLATION XoINCREASE FONT SIZE SYMBOLzaDECREASE FONT SIZE SYMBOLzaCOMPRESS",
  "IONlOLD KEYhROLLED-UP NEWSPAPERtPAGE#CIRCLED TEXTwSTOCK CHARTlDAGGER KNIFEmLIPSeSPEAKING HEAD ",
  "IN SILHOUETTEzcTHREE RAYS+fBELOWfLEFTeRIGHTq[SPEECH BUBBLEs]SPEECH BUBBLEtTWO SPEECH BUBBLESrH",
  "REE SPEECH BUBBLESu[THOUGHT BUBBLEt]THOUGHT BUBBLEu[ANGER BUBBLEr]ANGER BUBBLEsMOOD BUBBLElLIG",
  "HTNING MOOD BUBBLEhoBALLOT BOX#BALLOTpSCRIPT XiBOX#SCRIPT XpLD SCRIPT XlX#BOLD SCRIPT XzeLIGHT",
  " CHECK?qBALLOT BOX#BOLD CHECKzbWORLD MAPjMOUNT FUJIkTOKYO TOWERlSTATUE OF LIBERTYqILHOUETTE OF",
  " JAPANtMOYAIfGRINNING FACEa#SMILING EYESzgFACE#TEARS OF JOYwSMILING FACE#OPEN MOUTHa&SMILING E",
  "YESmCOLD SWEATkTIGHTLY-CLOSED EYESzjHALOdORNSxWINKING FACEmSMILING FACE#SMILING EYESzfFACE SAV",
  "OURING DELICIOUS FOODzeRELIEVED FACEnSMILING FACE#HEART-SHAPED EYESrSUNGLASSESzaRKING FACEnNEU",
  "TRAL FACEmEXPRESSIONLESS FACEtUNAMUSED FACEnFACE#COLD SWEATuPENSIVE FACEmCONFUSED FACEjOUNDED ",
  "FACEpKISSING FACEmFACE THROWING A KISSuKISSING FACE#SMILING EYESmCLOSED EYESzeFACE#STUCK-OUT T",
  "ONGUEa&WINKING EYElTIGHTLY-CLOSED EYESzzaDISAPPOINTED FACErWORRIED FACEmANGRY FACEkPOUTING FAC",
  "EmCRYING FACElPERSEVERING FACEqFACE#LOOK OF TRIUMPHzaDISAPPOINTED BUT RELIEVED FACEzfFROWNING ",
  "FACE#OPEN MOUTHzeANGUISHED FACEoFEARFUL FACEmWEARY FACEkSLEEPY FACElTIRED FACEkGRIMACING FACEo",
  "LOUDLY CRYING FACEsFACE#OPEN MOUTHuHUSHED FACElFACE#OPEN MOUTH&COLD SWEATzfSCREAMING IN FEARwA",
  "STONISHED FACEpFLUSHED FACEmSLEEPING FACEnDIZZY FACEkFACE WITHOUT MOUTHj MEDICAL MASKwGRINNING",
  " CAT FACE#SMILING EYESzkCAT FACE#TEARS OF JOYzbSMILING CAT FACE#OPEN MOUTHkHEART-SHAPED EYESzo",
  "CAT FACE#WRY SMILExKISSING CAT FACE#CLOSED EYESziPOUTING CAT FACEqCRYING CAT FACEpWEARY CAT FA",
  "CEoSLIGHTLY FROWNING FACEnSMILING FACEvUPSIDE-DOWN FACEqFACE#ROLLING EYESmNO GOOD GESTUREpOK G",
  "ESTUREuPERSON BOWING DEEPLYuSEE-NO-EVIL MONKEYsHEAR-NO-EVIL MONKEYtSPEAK-NO-EVIL MONKEYuHAPPY ",
  "PERSON RAISING ONE HANDzePERSON RAISING BOTH HANDS IN CELEBRATIONziFROWNINGiWITH POUTING FACEm",
  "FOLDED HANDSyNORTH WEST POINTING LEAFySOUTH WEST POINTING LEAFyNORTH EAST POINTING LEAFySOUTH ",
  "EAST POINTING LEAFyTURNED NORTH WEST POINTING LEAFySOUTH WEST POINTING LEAFyNORTH EAST POINTIN",
  "G LEAFySOUTH EAST POINTING LEAFzgNORTH WEST POINTING VINE LEAFzeSOUTH WEST POINTING VINE LEAFz",
  "eNORTH EAST POINTING VINE LEAFzeSOUTH EAST POINTING VINE LEAFzeHEAVY NORTH WEST POINTING VINE ",
  "LEAFzeSOUTH WEST POINTING VINE LEAFzeNORTH EAST POINTING VINE LEAFzeSOUTH EAST POINTING VINE L",
  "EAFzkNORTH WEST POINTING BUDxSOUTH WEST POINTING BUDxNORTH EAST POINTING BUDxSOUTH EAST POINTI",
  "NG BUDxHEAVY NORTH WEST POINTING BUDxSOUTH WEST POINTING BUDxNORTH EAST POINTING BUDxSOUTH EAS",
  "T POINTING BUDzdOLLOW QUILT SQUARE ORNAMENTa IN )SQUAREztSOLID QUILT SQUARE ORNAMENTa IN )SQUA",
  "REzs<ROCKETqUPWARDS ROCKETo>ROCKETrDOWNWARDS ROCKETqSCRIPT LIGATURE ET ORNAMENTzcHEAVY SCRIPT ",
  "LIGATURE ET ORNAMENTziLIGATURE OPEN ET ORNAMENTzaHEAVY LIGATURE OPEN ET ORNAMENTzaAMPERSAND OR",
  "NAMENTySWASH AMPERSAND ORNAMENTxANS-SERIF HEAVY :TURNED COMMA QUOTATION? ORNAMENTzlCOMMA QUOTA",
  "TION? ORNAMENTzlLOW :COMMA QUOTATION? ORNAMENTzzhHEAVY INTERROBANG ORNAMENTzbSANS-SERIF INTERR",
  "OBANG ORNAMENTzgHEAVY SANS-SERIF INTERROBANG ORNAMENTzmVERY HEAVY SOLIDUShREVERSE SOLIDUSzbCHE",
  "CKER BOARDnREVERSE CHECKER BOARDuOCKETgHELICOPTERkSTEAM LOCOMOTIVEqRAILWAY CARlHIGH-SPEED TRAI",
  "Na#BULLET NOSEziTRAINfMETROfLIGHT RAILkSTATIONhTRAMa CARiBUSdONCOMING BUSmTROLLEYBUSkBUS STOPi",
  "MINIBUShAMBULANCEjFIRE ENGINElPOLICE CARkONCOMING POLICE CARtTAXIeONCOMING TAXInAUTOMOBILEkONC",
  "OMING AUTOMOBILEtRECREATIONAL VEHICLEuDELIVERY TRUCKoARTICULATED LORRYrTRACTORhMONORAILgUNTAIN",
  " RAILWAYqSUSPENSION RAILWAYsMOUNTAIN CABLEWAYrAERIAL TRAMWAYoSHIPeROWBOAThSPEEDBOATj(TRAFFIC L",
  "IGHTy|TRAFFIC LIGHTwCONSTRUCTION.rPOLICE CARS REVOLVING LIGHTzcTRIANGULAR FLAG ON POSTxDOOReNO",
  " ENTRY.nSMOKING SYMBOLoNO SMOKING SYMBOLrPUT LITTER IN ITS PLACE SYMBOLzfDO NOT LITTER SYMBOLu",
  "POTABLE WATER SYMBOLuNON-POTABLE WATER SYMBOLyBICYCLEhNO BICYCLESlBICYCLISTjMOUNTAIN BICYCLIST",
  "sPEDESTRIANkNO PEDESTRIANSoCHILDREN CROSSINGrMENS SYMBOLlWOMENS SYMBOLnRESTROOMiBABY SYMBOLlTO",
  "ILETgWATER CLOSETmSHOWERgBATHaTUBhPASSPORT CONTROLqCUSTOMShBAGGAGE CLAIMn[LUGGAGEm;#ROUNDED CO",
  "RNERSzePROHIBITED.pCIRCLED INFORMATION SOURCEzbBOYS SYMBOLlGIRLS SYMBOLmCOUCH&LAMPoSLEEPING AC",
  "COMMODATIONvHOPPING BAGSnBELLHOP BELLkDdPLACE OF WORSHIPqOCTAGONAL.oSHOPPING TROLLEYpTUPAfPAGO",
  "DAgHINDU TEMPLElUTdELEVATOR@1f6dd@iPLAYGROUND SLIDEqWHEELfRING BUOYjHAMMER&WRENCHrSHIELDgOIL D",
  "RUMiMOTORWAYiRAILWAY TRACKnMOTOR BOATkUP-POINTING MILITARY AIRPLANErAIRPLANEi%AIRPLANEzb%AIRPL",
  "ANEoNORTHEAST-POINTING AIRPLANEzcAIRPLANE DEPARTUREjARRIVING@1f6f0@rSATELLITEjONCOMING FIRE EN",
  "GINEuDIESEL LOCOMOTIVErPASSENGER SHIPoSCOOTERhMOTOR SCOOTERnCANOEfSLEDeFLYING SAUCERnSKATEBOAR",
  "DkAUTO RICKSHAWnPICKUP TRUCKmROLLER SKATE@1f700@mALCHEMICAL ~FOR QUINTESSENCEmAIRdFIREeEARTHfW",
  "ATERfAQUAFORTISg REGIAa-2hVITAEa-2mVINEGARa-2b3jSULFURgPHILOSOPHERS SULFURt)SULFURmMERCURY SUB",
  "LIMATEa-2b3tCINNABARiSALTeNITREfVITRIOLa-2jROCK SALTa-2lGOLDeSILVERgIRON OREa-2kCROCUS OF IRON",
  "oREGULUS OF IRONpCOPPER OREkIRON-COPPER OREpSUBLIMATE OF COPPERtCROCUS OF COPPERa-2rOPPER ANTI",
  "MONIATEsSALT OF COPPER ANTIMONIATEzaUBLIMATE OF SALT OF COPPERzcVERDIGRISjTIN OREhLEAD OREiANT",
  "IMONY OREmSUBLIMATE OF ANTIMONYuALT OF ANTIMONYpUBLIMATE OF SALT OF ANTIMONYzeVINEGAR OF ANTIM",
  "ONYtREGULUS OF ANTIMONYa-2oa-2b3b4jALKALIa-2iMARCASITEjSAL-AMMONIACmARSENIChREALGARa-2jAURIPIG",
  "MENTlBISMUTH ORElTARTARa-2iQUICK LIMEkBORAXa-2b3hALUMeOILdSPIRITgTINCTUREiGUMdWAXdPOWDERgCALXe",
  "TUTTYfCAPUT MORTUUMnSCEPTER OF JOVEpCADUCEUSiTRIDENThSTARRED TRIDENTpLODESTONEjSOAPeURINEfHORS",
  "E DUNGkASHESfPOT ASHESjBRICKfPOWDERED BRICKoAMALGAMhSTRATUM SUPER STRATUMa-2wUBLIMATIONlPRECIP",
  "ITATElDISTILLeSOLVEa-2kPURIFYeTREFACTIONmCRUCIBLEa-2b3b4b5kALEMBIChBATH OF MARYeVAPOURSpRETORT",
  "gHOUReNIGHTfDAY-NIGHTjMONTHfHALF DRAMeOUNCE@1f780@zh)LEFT-POINTING ISOSCELES ];znUP-POINTING I",
  "SOSCELES ];zlRIGHT-POINTING ISOSCELES ];zoDOWN-POINTING ISOSCELES ];znSLIGHTLY %CIRCLEzcMEDIUM",
  " BOLD WHITE CIRCLEyBOLD WHITE CIRCLErHEAVY WHITE CIRCLEsVERY HEAVY WHITE CIRCLExEXTREMELY HEAV",
  "Y WHITE CIRCLEzdWHITE CIRCLE CONTAINING )%CIRCLEzrROUND TARGETm)TINY SQUARElSLIGHTLY %SQUAREzc",
  "LIGHT WHITE SQUAREsMEDIUM WHITE SQUAREtBOLD WHITE SQUARErHEAVY WHITE SQUAREsVERY HEAVY WHITE S",
  "QUARExEXTREMELY HEAVY WHITE SQUAREzdWHITE SQUARE CONTAINING )VERY %SQUARErMEDIUM SQUAREzsSQUAR",
  "E TARGETn)TINY DIAMONDmVERY %DIAMONDsMEDIUM %DIAMONDzbWHITE DIAMOND CONTAINING )VERY %DIAMONDs",
  "MEDIUM DIAMONDzuDIAMOND TARGETo)TINY LOZENGEmVERY %LOZENGEsMEDIUM %LOZENGEzbWHITE LOZENGE CONT",
  "AINING )%LOZENGEztTHIN GREEK CROSSqLIGHT GREEK CROSSrMEDIUM GREEK CROSSsBOLD GREEK CROSSqVERY ",
  "BOLD GREEK CROSSqHEAVY GREEK CROSSwEXTREMELY HEAVY GREEK CROSSzcTHIN SALTIREmLIGHT SALTIREnMED",
  "IUM SALTIREoBOLD SALTIREmHEAVY SALTIREnVERY HEAVY SALTIREsEXTREMELY HEAVY SALTIRExLIGHT FIVE S",
  "POKED ASTERISKzbMEDIUM FIVE SPOKED ASTERISKzcBOLD FIVE SPOKED ASTERISKzaHEAVY FIVE SPOKED ASTE",
  "RISKzbVERY HEAVY FIVE SPOKED ASTERISKzgEXTREMELY HEAVY FIVE SPOKED ASTERISKzlLIGHT SIX SPOKED ",
  "ASTERISKzaMEDIUM SIX SPOKED ASTERISKzbBOLD SIX SPOKED ASTERISKyHEAVY SIX SPOKED ASTERISKzaVERY",
  " HEAVY SIX SPOKED ASTERISKzfEXTREMELY HEAVY SIX SPOKED ASTERISKzkLIGHT EIGHT SPOKED ASTERISKzc",
  "MEDIUM EIGHT SPOKED ASTERISKzdBOLD EIGHT SPOKED ASTERISKzbHEAVY EIGHT SPOKED ASTERISKzcVERY HE",
  "AVY EIGHT SPOKED ASTERISKzhLIGHT THREE POINTED )STARzfMEDIUM THREE POINTED )STARzgTHREE POINTE",
  "D )STARyMEDIUM THREE POINTED PINWHEEL STARzjLIGHT FOUR POINTED )STARzeMEDIUM FOUR POINTED )STA",
  "RzfFOUR POINTED )STARxMEDIUM FOUR POINTED PINWHEEL STARziREVERSE LIGHT FOUR POINTED PINWHEEL S",
  "TARzpLIGHT FIVE POINTED )STARzeHEAVY FIVE POINTED )STARzeMEDIUM SIX POINTED )STARzeHEAVY SIX P",
  "OINTED )STARzdSIX POINTED PINWHEEL STARzaMEDIUM EIGHT POINTED )STARzgHEAVY EIGHT POINTED )STAR",
  "zfVERY HEAVY EIGHT POINTED )STARzkHEAVY EIGHT POINTED PINWHEEL STARziLIGHT TWELVE POINTED )STA",
  "RzgHEAVY TWELVE POINTED )STARkPINWHEEL STARzjCIRCLED ;qNEGATIVE CIRCLED ;zaCIRCLED SQUAREoNEGA",
  "TIVE CIRCLED SQUARE@1f7e0@xLARGE ORANGE CIRCLEnYELLOW CIRCLEnGREEN CIRCLEmPURPLE CIRCLEnBROWN ",
  "CIRCLEmRED SQUAREkBLUE SQUARElORANGE SQUAREnYELLOW SQUAREnGREEN SQUAREmPURPLE SQUAREnBROWN SQU",
  "ARE@1f7f0@sHEAVY EQUALS.@1f800@r<^#%; ^HEADzuUPWARDS ^#%; ^HEADzs>^#%; ^HEADzvDOWNWARDS ^#%; ^",
  "HEADzu<^#MEDIUM ; ^HEADzvUPWARDS ^#MEDIUM ; ^HEADzt>^#MEDIUM ; ^HEADzwDOWNWARDS ^#MEDIUM ; ^HE",
  "ADzv<^#LARGE ; ^HEADzuUPWARDS ^#LARGE ; ^HEADzs>^#LARGE ; ^HEADzvDOWNWARDS ^#LARGE ; ^HEAD@1f8",
  "10@zu<^#%EQUILATERAL ^HEADzxUPWARDS ^#%EQUILATERAL ^HEADzv>^#%EQUILATERAL ^HEADzyDOWNWARDS ^#%",
  "EQUILATERAL ^HEADzx<^#EQUILATERAL ^HEADzrUPWARDS ^#EQUILATERAL ^HEADzp>^#EQUILATERAL ^HEADzsDO",
  "WNWARDS ^#EQUILATERAL ^HEADzrHEAVY <^#EQUILATERAL ^HEADzrUPWARDS ^#EQUILATERAL ^HEADzp>^#EQUIL",
  "ATERAL ^HEADzsDOWNWARDS ^#EQUILATERAL ^HEADzr<^#LARGE EQUILATERAL ^HEADzxUPWARDS ^#LARGE EQUIL",
  "ATERAL ^HEADzv>^#LARGE EQUILATERAL ^HEADzyDOWNWARDS ^#LARGE EQUILATERAL ^HEADzze<;-HEADED ^#N^",
  " SHAFTzyUPWARDS ;-HEADED ^#N^ SHAFTzw>;-HEADED ^#N^ SHAFTzzaDOWNWARDS ;-HEADED ^#N^ SHAFTzy<;-",
  "HEADED ^#MEDIUM SHAFTzyUPWARDS ;-HEADED ^#MEDIUM SHAFTzw>;-HEADED ^#MEDIUM SHAFTzzaDOWNWARDS ;",
  "-HEADED ^#MEDIUM SHAFTzy<;-HEADED ^#BOLD SHAFTzwUPWARDS ;-HEADED ^#BOLD SHAFTzu>;-HEADED ^#BOL",
  "D SHAFTzxDOWNWARDS ;-HEADED ^#BOLD SHAFTzw<;-HEADED ^#HEAVY SHAFTzxUPWARDS ;-HEADED ^#HEAVY SH",
  "AFTzv>;-HEADED ^#HEAVY SHAFTzyDOWNWARDS ;-HEADED ^#HEAVY SHAFTzx<;-HEADED ^#VERY HEAVY SHAFTzz",
  "dUPWARDS ;-HEADED ^#VERY HEAVY SHAFTzzb>;-HEADED ^#VERY HEAVY SHAFTzzeDOWNWARDS ;-HEADED ^#VER",
  "Y HEAVY SHAFTzzd<FINGER-POST ^zcUPWARDS FINGER-POST ^za>FINGER-POST ^zdDOWNWARDS FINGER-POST ^",
  "zc<SQUARED ^xUPWARDS SQUARED ^v>SQUARED ^yDOWNWARDS SQUARED ^x<COMPRESSED ^zbUPWARDS COMPRESSE",
  "D ^y>COMPRESSED ^zcDOWNWARDS COMPRESSED ^zb<HEAVY COMPRESSED ^zhUPWARDS HEAVY COMPRESSED ^zf>H",
  "EAVY COMPRESSED ^ziDOWNWARDS HEAVY COMPRESSED ^zh<HEAVY ^vUPWARDS HEAVY ^t>HEAVY ^wDOWNWARDS H",
  "EAVY ^@1f850@v<SANS-SERIF ^zbUPWARDS SANS-SERIF ^y>SANS-SERIF ^zcDOWNWARDS SANS-SERIF ^zbNORTH",
  " WEST SANS-SERIF ^vEAST SANS-SERIF ^zcSOUTH EAST SANS-SERIF ^vWEST SANS-SERIF ^zc[]SANS-SERIF ",
  "^zcUP DOWN SANS-SERIF ^@1f860@yWIDE-HEADED <LIGHT BARB ^zbUPWARDS LIGHT BARB ^y>LIGHT BARB ^zc",
  "DOWNWARDS LIGHT BARB ^zbNORTH WEST LIGHT BARB ^vEAST LIGHT BARB ^zcSOUTH EAST LIGHT BARB ^vWES",
  "T LIGHT BARB ^zc<BARB ^uUPWARDS BARB ^s>BARB ^vDOWNWARDS BARB ^uNORTH WEST BARB ^pEAST BARB ^v",
  "SOUTH EAST BARB ^pWEST BARB ^v<MEDIUM BARB ^zcUPWARDS MEDIUM BARB ^za>MEDIUM BARB ^zdDOWNWARDS",
  " MEDIUM BARB ^zcNORTH WEST MEDIUM BARB ^wEAST MEDIUM BARB ^zdSOUTH EAST MEDIUM BARB ^wWEST MED",
  "IUM BARB ^zd<HEAVY BARB ^zbUPWARDS HEAVY BARB ^y>HEAVY BARB ^zcDOWNWARDS HEAVY BARB ^zbNORTH W",
  "EST HEAVY BARB ^vEAST HEAVY BARB ^zcSOUTH EAST HEAVY BARB ^vWEST HEAVY BARB ^zc<VERY HEAVY BAR",
  "B ^zgUPWARDS VERY HEAVY BARB ^ze>VERY HEAVY BARB ^zhDOWNWARDS VERY HEAVY BARB ^zgNORTH WEST VE",
  "RY HEAVY BARB ^zbEAST VERY HEAVY BARB ^zhSOUTH EAST VERY HEAVY BARB ^zbWEST VERY HEAVY BARB ^@",
  "1f890@zt<; ^HEADzdUPWARDS ; ^HEADzb>; ^HEADzeDOWNWARDS ; ^HEADzd<WHITE ^ WITHIN ; ^HEADzwUPWAR",
  "DS WHITE ^ WITHIN ; ^HEADzu>WHITE ^ WITHIN ; ^HEADzxDOWNWARDS WHITE ^ WITHIN ; ^HEADzw<^#NOTCH",
  "ED TAILziUPWARDS ^#NOTCHED TAILzg>^#NOTCHED TAILzjDOWNWARDS ^#NOTCHED TAILziHEAVY ^ SHAFT WIDT",
  "H ONEdTWO THIRDSkONE HALFeTHIRDzi<BOTTOM-SHADED WHITE ^zk>BOTTOM SHADED WHITE ^zl<TOP SHADED W",
  "HITE ^zh>TOP SHADED WHITE ^zi<LEFT-SHADED WHITE ^zi>RIGHT-SHADED WHITE ^zk<RIGHT-SHADED WHITE ",
  "^zj>LEFT-SHADED WHITE ^zj<BACK-TILTED SHADOWED WHITE ^zr>BACK-TILTED SHADOWED WHITE ^zs<FRONT-",
  "TILTED SHADOWED WHITE ^zs>FRONT-TILTED SHADOWED WHITE ^ztWHITE ^ SHAFT WIDTH ONEdTWO THIRDS@1f",
  "8b0@zj^ POINTING UPWARDS THEN NORTH WESTx>THEN CURVING SOUTH WEST@1f900@zyCIRCLED CROSS*EE#FOU",
  "R DOTSjTWO DOTSou[HALF CIRCLE#FOUR DOTSjTHREE DOTSjWO DOTSiDOTjqDOWNWARD FACING HOOKeNOTCHED H",
  "OOKmHOOK#DOTnNOTCHED HOOK#DOTzmPINCHED FINGERSpWHITE HEARTlBROWN HEARTlPINCHING HANDnZIPPER-MO",
  "UTH FACErMONEY-MOUTH FACEqFACE#THERMOMETERvNERD FACEjTHINKING FACEnFACE#HEAD-BANDAGEwROBOT FAC",
  "EkHUGGING FACEmSIGN OF THE HORNSrCALL ME HANDmRAISED BACK OF HANDtLEFT-FACING FISTqRIGHT-FACIN",
  "G FISTrHANDSHAKEf#INDEX&MIDDLE FINGERS CROSSEDzrI LOVE YOU HAND.uFACE#COWBOY HATuCLOWN FACEkNA",
  "USEATED FACEoROLLING ON THE FLOOR LAUGHINGzeDROOLING FACEnLYING FACEkFACE PALMjSNEEZING FACEnF",
  "ACE#ONE EYEBROW RAISEDzdGRINNING FACE#STAR EYESjONE LARGE&ONE %EYEzvFACE#FINGER COVERING CLOSE",
  "D LIPSzmSERIOUS FACE#SYMBOLS COVERING MOUTHzoMILING FACE#SMILING EYES&HAND COVERING MOUTHzzeFA",
  "CE#OPEN MOUTH VOMITINGzeSHOCKED FACE#EXPLODING HEADzhPREGNANT WOMANoBREAST-FEEDINGoPALMS UP TO",
  "GETHERrSELFIEgPRINCEgMAN IN TUXEDOmOTHER CHRISTMASqSHRUGfPERSON DOING CARTWHEELwJUGGLINGiFENCE",
  "RgMODERN PENTATHLONrWRESTLERSiATER POLOkHANDBALLiDIVING MASKlWILTED FLOWERnDRUM#DRUMSTICKSuCLI",
  "NKING GLASSESqTUMBLER GLASSnSPOONfGOAL NETiRIFLEfFIRST PLACE MEDALrSECOND PLACE MEDALsTHIRD PL",
  "ACE MEDALrBOXING GLOVEmMARTIAL ARTS UNIFORMuCURLING STONEnLACROSSE STICK&BALLxSOFTBALLiFLYING ",
  "DISClCROISSANTjAVOCADOhCUCUMBERiBACONfPOTATOgCARROTgBAGUETTE BREADoGREEN SALADlSHALLOW PAN OF ",
  "FOODsTUFFED FLATBREADrEGGdGLASS OF MILKnPEANUTShKIWIFRUITjPANCAKESiDUMPLINGiFORTUNE COOKIEoTAK",
  "EOUT BOXlCHOPSTICKSkBOWL#SPOONpCUP#STRAWnOCONUThBROCCOLIiPIEcRETZELhCUT OF MEATlSANDWICHiCANNE",
  "D FOODlLEAFY GREENlMANGOeOON CAKEjBAGELfSMILING FACE#SMILING EYES&THREE HEARTSzwYAWNING FACEmS",
  "MILING FACE#TEARwFACE#PARTY HORN&PARTY HATyUNEVEN EYES&WAVY MOUTHzlOVERHEATED FACEpFREEZING FA",
  "CEnNINJAfDISGUISED FACEoFACE HOLDING BACK TEARSsWITH PLEADING EYESxSARIeLAB COATiGOGGLEShHIKIN",
  "G BOOTlFLAT SHOEjCRABeLION FACEjSCORPIONiTURKEYgUNICORN FACEmEAGLEfDUCKeBATdSHARKfOWLdFOX FACE",
  "iBUTTERFLYjDEEReGORILLAhLIZARDgRHINOCEROSkSHRIMPfQUIDfGIRAFFE FACEmZEBRA FACEkHEDGEHOGiSAUROPO",
  "DiT-REXfCRICKEThKANGAROOiLLAMAfPEACOCKhHIPPOPOTAMUSmPARROTgRACCOONhLOBSTERhMOSQUITOhICROBEhBAD",
  "GERgSWANeMAMMOTHhDODOeSLOTHfOTTEReRANGUTANjSKUNKfFLAMINGOiOYSTERgBEAVERfISONfSEALeGUIDE DOGjPR",
  "OBING CANEmEMOJI COMPONENT RED HAIRiCURLY HAIRkBALDeWHITE HAIRzbBONEeLEGdFOOTeTOOTHfSUPERHEROe",
  "VILLAINlAFETY VESTlEAR#HEARING AIDuMOTORIZED WHEELCHAIRtANUAL WHEELCHAIRqECHANICAL ARMdLEGoCHE",
  "ESE WEDGElUPCAKEhSALT SHAKERlBEVERAGE BOXmGARLICgONIONfFALAFELhWAFFLEgBUTTERgMATE DRINKkICE CU",
  "BEiBUBBLE TEAkTROLLfSTANDING PERSONpKNEELING PERSONpDEAF PERSONlFACE#MONOCLErADULTfCHILDfOLDER",
  " ADULTlBEARDED PERSONoPERSON#HEADSCARFoIN STEAMY ROOMoCLIMBINGiIN LOTUS POSITIONyMAGEeFAIRYfVA",
  "MPIREhMERPERSONjELFdGENIEfZOMBIEgBRAINfORANGE HEARTmBILLED CAPkSCARFfGLOVESgCOATeSOCKSfRED GIF",
  "T ENVELOPErFIRECRACKERlJIGSAW PUZZLE PIECEtTEST TUBEjPETRI DISHkDNA :HELIXqCOMPASShABACUSgFIRE",
  " EXTINGUISHERrTOOLBOXhBRICKfMAGNETgLUGGAGEgOTION BOTTLEnSPOOL OF THREADpBALL OF YARNmSAFETY PI",
  "NkTEDDY BEARkBROOMeASKETgROLL OF PAPERnBAR OF SOAPlSPONGEgRECEIPThNAZAR AMULETlEUTRAL CHESS KI",
  "NGeQUEENfROOKeBISHOPgKNIGHTgPAWNsWHITE CHESS KNIGHT ROTATED FORTY-FIVE DEGREESzu)CHESS KNIGHT ",
  "ROTATED FORTY-FIVE DEGREESzuNEUTRAL CHESS KNIGHT ROTATED FORTY-FIVE DEGREESzwWHITE CHESS KING ",
  "ROTATED NINETY DEGREESzcQUEEN ROTATED NINETY DEGREESzdROOK ROTATED NINETY DEGREESzcBISHOP ROTA",
  "TED NINETY DEGREESzeKNIGHT ROTATED NINETY DEGREESzePAWN ROTATED NINETY DEGREESzo)CHESS KING RO",
  "TATED NINETY DEGREESzcQUEEN ROTATED NINETY DEGREESzdROOK ROTATED NINETY DEGREESzcBISHOP ROTATE",
  "D NINETY DEGREESzeKNIGHT ROTATED NINETY DEGREESzePAWN ROTATED NINETY DEGREESzoNEUTRAL CHESS KI",
  "NG ROTATED NINETY DEGREESzcQUEEN ROTATED NINETY DEGREESzdROOK ROTATED NINETY DEGREESzcBISHOP R",
  "OTATED NINETY DEGREESzeKNIGHT ROTATED NINETY DEGREESzePAWN ROTATED NINETY DEGREESzqWHITE CHESS",
  " KNIGHT ROTATED ONE HUNDRED THIRTY-FIVE DEGREESzzi)CHESS KNIGHT ROTATED ONE HUNDRED THIRTY-FIV",
  "E DEGREESzziNEUTRAL CHESS KNIGHT ROTATED ONE HUNDRED THIRTY-FIVE DEGREESzzkWHITE CHESS TURNED ",
  "KINGeQUEENfROOKeBISHOPgKNIGHTgPAWNx)CHESS TURNED KINGeQUEENfROOKeBISHOPgKNIGHTgPAWNxNEUTRAL CH",
  "ESS TURNED KINGeQUEENfROOKeBISHOPgKNIGHTgPAWNzaWHITE CHESS KNIGHT ROTATED TWO HUNDRED TWENTY-F",
  "IVE DEGREESzzi)CHESS KNIGHT ROTATED TWO HUNDRED TWENTY-FIVE DEGREESzziNEUTRAL CHESS KNIGHT ROT",
  "ATED TWO HUNDRED TWENTY-FIVE DEGREESzzkWHITE CHESS KING ROTATED TWO HUNDRED SEVENTY DEGREESzpQ",
  "UEEN ROTATED TWO HUNDRED SEVENTY DEGREESzqROOK ROTATED TWO HUNDRED SEVENTY DEGREESzpBISHOP ROT",
  "ATED TWO HUNDRED SEVENTY DEGREESzrKNIGHT ROTATED TWO HUNDRED SEVENTY DEGREESzrPAWN ROTATED TWO",
  " HUNDRED SEVENTY DEGREESzzc)CHESS KING ROTATED TWO HUNDRED SEVENTY DEGREESzpQUEEN ROTATED TWO ",
  "HUNDRED SEVENTY DEGREESzqROOK ROTATED TWO HUNDRED SEVENTY DEGREESzpBISHOP ROTATED TWO HUNDRED ",
  "SEVENTY DEGREESzrKNIGHT ROTATED TWO HUNDRED SEVENTY DEGREESzrPAWN ROTATED TWO HUNDRED SEVENTY ",
  "DEGREESzzcNEUTRAL CHESS KING ROTATED TWO HUNDRED SEVENTY DEGREESzpQUEEN ROTATED TWO HUNDRED SE",
  "VENTY DEGREESzqROOK ROTATED TWO HUNDRED SEVENTY DEGREESzpBISHOP ROTATED TWO HUNDRED SEVENTY DE",
  "GREESzrKNIGHT ROTATED TWO HUNDRED SEVENTY DEGREESzrPAWN ROTATED TWO HUNDRED SEVENTY DEGREESzze",
  "WHITE CHESS KNIGHT ROTATED THREE HUNDRED FIFTEEN DEGREESzzg)CHESS KNIGHT ROTATED THREE HUNDRED",
  " FIFTEEN DEGREESzzgNEUTRAL CHESS KNIGHT ROTATED THREE HUNDRED FIFTEEN DEGREESzziWHITE CHESS EQ",
  "UIHOPPERw)CHESS EQUIHOPPERwNEUTRAL CHESS EQUIHOPPERyWHITE CHESS EQUIHOPPER ROTATED NINETY DEGR",
  "EESzu)CHESS EQUIHOPPER ROTATED NINETY DEGREESzuNEUTRAL CHESS EQUIHOPPER ROTATED NINETY DEGREES",
  "zwWHITE CHESS KNIGHT-QUEENfROOKeBISHOPza)CHESS KNIGHT-QUEENfROOKeBISHOP@1fa60@zaXIANGQI RED GE",
  "NERALhMANDARINiELEPHANTiHORSEfCHARIOTgANNONgSOLDIERl)GENERALhMANDARINiELEPHANTiHORSEfCHARIOTgA",
  "NNONgSOLDIER@1fa70@vBALLET SHOESmONE-PIECE SWIMSUITsBRIEFSgSHORTSgTHONG SANDAL@1fa78@mDROP OF ",
  "BLOODnADHESIVE BANDAGEqSTETHOSCOPElX-RAYfCRUTCH@1fa80@gYO-YOfKITEePARACHUTEjBOOMERANGjMAGIC WA",
  "NDkPINATAgNESTING DOLLS@1fa90@nRINGED PLANETnCHAIRfRAZORfAXEdDIYA LAMPjBANJOfMILITARY HELMETpA",
  "CCORDIONjLONG DRUMjCOINdARPENTRY SAWnSCREWDRIVERlLADDERgHOOKeMIRRORgWINDOWgPLUNGERhSEWING NEED",
  "LEnKNOTeBUCKETgMOUSE TRAPkTOOTHBRUSHkHEADSTONEjPLACARDhROCKeMIRROR BALLlIDENTIFICATION CARDtLO",
  "W BATTERYlHAMSA@1fab0@fFLYdWORMeBEETLEgCOCKROACHjPOTTED PLANTmWOODeFEATHERhLOTUSfCORALfEMPTY N",
  "ESTkNEST#EGGS@1fac0@oANATOMICAL HEARTqLUNGSfPEOPLE HUGGINGnREGNANT MANdPERSONoERSON#CROWN@1fad",
  "0@rBLUEBERRIESkELL PEPPERlOLIVEfFLATBREADjTAMALEgFONDUEgTEAPOTgPOURING LIQUIDoBEANSfJAR@1fae0@",
  "dMELTING FACEmSALUTING FACEnFACE#OPEN EYES&HAND OVER MOUTHzePEEKING EYElDIAGONAL MOUTHyDOTTED ",
  "LINE FACEqBITING LIPjUBBLES@1faf0@hHAND#INDEX FINGER&THUMB CROSSEDzp>HANDp<HANDoPALM DOWN HAND",
  "jUP HANDmINDEX POINTING AT THE VIEWERzdHEART HANDS@1fb00@lBLOCK SEXTANT-1b2b12c3b13c23c123d4b1",
  "4c24c124d34c134d234d1234e5b15c25c125d35c235d1235e45c145d245d1245e345d1345e2345e12345f6b16c26c1",
  "26d36c136d236d1236e46c146c246e346d1346e2346e12346f56c156d256d1256e356d1356e2356e12356f456d1456",
  "e2456e12456f3456e13456f23456tLOWER [BLOCK DIAGONAL LOWER MIDDLE [TO LOWER CENTREgRIGHTzhUPPER ",
  "MIDDLE [TO LOWER CENTREgRIGHTzb[TO LOWER CENTREzv]BLOCK DIAGONAL UPPER MIDDLE [TO UPPER CENTRE",
  "gRIGHTzhLOWER MIDDLE [TO UPPER CENTREgRIGHTzb[TO UPPER CENTREuMIDDLE [TO UPPER MIDDLE RIGHTziC",
  "ENTRE TO LOWER MIDDLE RIGHTzd[TO LOWER MIDDLE RIGHTzbCENTRE TO UPPER MIDDLE RIGHTzd[TO UPPER M",
  "IDDLE RIGHTzbCENTRE TO UPPER RIGHTzx[BLOCK DIAGONAL UPPER CENTRE TO UPPER MIDDLE RIGHTzd[TO UP",
  "PER MIDDLE RIGHTzbCENTRE TO LOWER MIDDLE RIGHTzd[TO LOWER MIDDLE RIGHTzbCENTRE TO LOWER RIGHTv",
  "MIDDLE [TO LOWER MIDDLE RIGHTzzpUPPER ]BLOCK DIAGONAL LOWER MIDDLE [TO LOWER CENTREgRIGHTzhUPP",
  "ER MIDDLE [TO LOWER CENTREgRIGHTzb[TO LOWER CENTREzw[BLOCK DIAGONAL UPPER MIDDLE [TO UPPER CEN",
  "TREgRIGHTzhLOWER MIDDLE [TO UPPER CENTREgRIGHTzb[TO UPPER CENTREuMIDDLE [TO UPPER MIDDLE RIGHT",
  "ziCENTRE TO LOWER MIDDLE RIGHTzd[TO LOWER MIDDLE RIGHTzbCENTRE TO UPPER MIDDLE RIGHTzd[TO UPPE",
  "R MIDDLE RIGHTzbCENTRE TO UPPER RIGHTzw]BLOCK DIAGONAL UPPER CENTRE TO UPPER MIDDLE RIGHTzd[TO",
  " UPPER MIDDLE RIGHTzbCENTRE TO LOWER MIDDLE RIGHTzd[TO LOWER MIDDLE RIGHTzbCENTRE TO LOWER RIG",
  "HTvMIDDLE [TO LOWER MIDDLE RIGHTzzkAND ]AND LOWER TRIANGULAR THREE QUARTERS BLOCKzzhLEFT&LOWER",
  "&]TRIANGULAR THREE QUARTERS BLOCKzzgUPPER&LEFT&LOWER TRIANGULAR THREE QUARTERS BLOCKzzgLEFT&UP",
  "PER&]TRIANGULAR THREE QUARTERS BLOCKzzbTRIANGULAR ONE QUARTER BLOCKziUPPER TRIANGULAR ONE QUAR",
  "TER BLOCKzj]TRIANGULAR ONE QUARTER BLOCKzjLOWER TRIANGULAR ONE QUARTER BLOCKzj|ONE EIGHTH BLOC",
  "K-2b3b4b5b6b7zc(ONE EIGHTH BLOCK-2b3b4b5b6b7zeLEFT&LOWER ONE EIGHTH BLOCKwUPPER ONE EIGHTH BLO",
  "CKzg]AND UPPER ONE EIGHTH BLOCKwLOWER ONE EIGHTH BLOCKzhUPPER&LOWER ONE EIGHTH BLOCKzh(ONE EIG",
  "HTH BLOCK-1358zhUPPER ONE QUARTER BLOCKrTHREE EIGHTHS BLOCKtFIVE EIGHTHS BLOCKsTHREE QUARTERS ",
  "BLOCKuSEVEN EIGHTHS BLOCKza]ONE QUARTER BLOCKrTHREE EIGHTHS BLOCKtFIVE EIGHTHS BLOCKsTHREE QUA",
  "RTERS BLOCKuSEVEN EIGHTHS BLOCKza[HALF MEDIUM SHADEw]HALF MEDIUM SHADExUPPER HALF MEDIUM SHADE",
  "xLOWER HALF MEDIUM SHADExINVERSE MEDIUM SHADEuUPPER HALF BLOCK&LOWER HALF INVERSE MEDIUM SHADE",
  "zqINVERSE MEDIUM SHADE&LOWER HALF BLOCK@1fb94@zzc[HALF INVERSE MEDIUM SHADE&]HALF BLOCKzzbCHEC",
  "KER BOARD FILLsINVERSE CHECKER BOARD FILLzbHEAVY (FILLvUPPER [TO LOWER ]FILLy]TO LOWER [FILLyA",
  "ND LOWER TRIANGULAR HALF BLOCKzmLEFT&]TRIANGULAR HALF BLOCKzlUPPER [TRIANGULAR MEDIUM SHADEzd]",
  "TRIANGULAR MEDIUM SHADEzkLOWER ]TRIANGULAR MEDIUM SHADEze[TRIANGULAR MEDIUM SHADEzjBOX DRAWING",
  "S LIGHT DIAGONAL UPPER CENTRE TO MIDDLE LEFTeRIGHTzdMIDDLE [TO LOWER CENTREu]TO LOWER CENTREzd",
  "UPPER CENTRE TO MIDDLE [TO LOWER CENTREu]TO LOWER CENTREztMIDDLE [TO LOWER CENTRE TO MIDDLE RI",
  "GHTzdUPPER CENTRE TO MIDDLE RIGHTzsUPPER CENTRE TO MIDDLE LEFT&MIDDLE ]TO LOWER CENTREzm]AND M",
  "IDDLE [TO LOWER CENTREzgTO LOWER CENTRE TO MIDDLE LEFTzl[TO LOWER CENTRE TO MIDDLE RIGHTzzjMID",
  "DLE [TO UPPER CENTRE TO MIDDLE ]TO LOWER CENTREzzc]TO UPPER CENTRE TO MIDDLE [TO LOWER CENTREz",
  "zjDIAMONDq(WITH |STROKEzza^HEAD-SHAPED POINTERyINVERSE CHECK?s[HALF RUNNING MANv]HALF RUNNING ",
  "MANwINVERSE DOWNWARDS ^#TIP LEFTWARDSzr<^&UPPER&LOWER ONE EIGHTH BLOCKzzc>^&UPPER&LOWER ONE EI",
  "GHTH BLOCKzzdDOWNWARDS ^&]ONE EIGHTH BLOCKzrUPWARDS ^&]ONE EIGHTH BLOCKzp[HALF FOLDERq]HALF FO",
  "LDERrVOIDED GREEK CROSSs]OPEN SQUARED DOTwNEGATIVE DIAGONAL CROSSfMIDDLE ]TO LOWER CENTREzdDIA",
  "MONDzaWHITE HEAVY SALTIRE#ROUNDED CORNERSzp[THIRD WHITE ]POINTING INDEXzmMIDDLE THIRD WHITE ]P",
  "OINTING INDEXzo]THIRD WHITE ]POINTING INDEXznNEGATIVE SQUARED QUESTION?zfSTICK FIGUREa#ARMS RA",
  "ISEDqLEANING LEFTeRIGHTnWITH DRESSxWHITE UP-POINTING CHEVRON@1fbf0@zaSEGMENTED DIGIT ZEROeONEd",
  "TWOcHREEfFOURdIVEeSIXcEVENfEIGHTfNINE@2f800@uCJK COMPATIBILITY IDEOGRAPH-2F800b1b2b3b4b5b6b7b8",
  "b9bAbBbCbDbEbFc10b1b2b3b4b5b6b7b8b9bAbBbCbDbEbFc20b1b2b3b4b5b6b7b8b9bAbBbCbDbEbFc30b1b2b3b4b5b",
  "6b7b8b9bAbBbCbDbEbFc40b1b2b3b4b5b6b7b8b9bAbBbCbDbEbFc50b1b2b3b4b5b6b7b8b9bAbBbCbDbEbFc60b1b2b3",
  "b4b5b6b7b8b9bAbBbCbDbEbFc70b1b2b3b4b5b6b7b8b9bAbBbCbDbEbFc80b1b2b3b4b5b6b7b8b9bAbBbCbDbEbFc90b",
  "1b2b3b4b5b6b7b8b9bAbBbCbDbEbFcA0b1b2b3b4b5b6b7b8b9bAbBbCbDbEbFcB0b1b2b3b4b5b6b7b8b9bAbBbCbDbEb",
  "FcC0b1b2b3b4b5b6b7b8b9bAbBbCbDbEbFcD0b1b2b3b4b5b6b7b8b9bAbBbCbDbEbFcE0b1b2b3b4b5b6b7b8b9bAbBbC",
  "bDbEbFcF0b1b2b3b4b5b6b7b8b9bAbBbCbDbEbFd900b1b2b3b4b5b6b7b8b9bAbBbCbDbEbFc10b1b2b3b4b5b6b7b8b9",
  "bAbBbCbDbEbFc20b1b2b3b4b5b6b7b8b9bAbBbCbDbEbFc30b1b2b3b4b5b6b7b8b9bAbBbCbDbEbFc40b1b2b3b4b5b6b",
  "7b8b9bAbBbCbDbEbFc50b1b2b3b4b5b6b7b8b9bAbBbCbDbEbFc60b1b2b3b4b5b6b7b8b9bAbBbCbDbEbFc70b1b2b3b4",
  "b5b6b7b8b9bAbBbCbDbEbFc80b1b2b3b4b5b6b7b8b9bAbBbCbDbEbFc90b1b2b3b4b5b6b7b8b9bAbBbCbDbEbFcA0b1b",
  "2b3b4b5b6b7b8b9bAbBbCbDbEbFcB0b1b2b3b4b5b6b7b8b9bAbBbCbDbEbFcC0b1b2b3b4b5b6b7b8b9bAbBbCbDbEbFc",
  "D0b1b2b3b4b5b6b7b8b9bAbBbCbDbEbFcE0b1b2b3b4b5b6b7b8b9bAbBbCbDbEbFcF0b1b2b3b4b5b6b7b8b9bAbBbCbD",
  "bEbFdA00b1b2b3b4b5b6b7b8b9bAbBbCbDbEbFc10b1b2b3b4b5b6b7b8b9bAbBbCbD@e0001@ziLANGUAGE TAG@e0020",
  "@mTAG SPACEfEXCLAMATION?qQUOTATION?oNUMBER.lDOLLAR.lPERCENT.mAMPERSANDiPOSTROPHEk[PARENTHESISq",
  "]PARENTHESISrASTERISKiPLUS.jCOMMAfHYPHEN-MINUSmFULL STOPjSOLIDUShDIGIT ZEROeONEdTWOcHREEfFOURd",
  "IVEeSIXcEVENfEIGHTfNINEkCOLONfSEMICOLONjLESS-THAN.oEQUALS.lGREATER-THAN.rQUESTION?nCOMMERCIAL ",
  "ATnLATIN $!AbBbCbDbEbFbGbHbIbJbKbLbMbNbObPbQbRbSbTbUbVbWbXbYbZvEFT SQUARE BRACKETtREVERSE SOLI",
  "DUSoIGHT SQUARE BRACKETuCIRCUMFLEX ACCENTrLOW LINEiGRAVE ACCENTmLATIN %!AbBbCbDbEbFbGbHbIbJbKb",
  "LbMbNbObPbQbRbSbTbUbVbWbXbYbZtEFT CURLY BRACKETs|LINEn]CURLY BRACKETtTILDEjCANCEL TAG@e0100@kV",
  "ARIATION SELECTOR-17b8b9c20b1b2b3b4b5b6b7b8b9c30b1b2b3b4b5b6b7b8b9c40b1b2b3b4b5b6b7b8b9c50b1b2",
  "b3b4b5b6b7b8b9c60b1b2b3b4b5b6b7b8b9c70b1b2b3b4b5b6b7b8b9c80b1b2b3b4b5b6b7b8b9c90b1b2b3b4b5b6b7",
  "b8b9c100b1b2b3b4b5b6b7b8b9c10b1b2b3b4b5b6b7b8b9c20b1b2b3b4b5b6b7b8b9c30b1b2b3b4b5b6b7b8b9c40b1",
  "b2b3b4b5b6b7b8b9c50b1b2b3b4b5b6b7b8b9c60b1b2b3b4b5b6b7b8b9c70b1b2b3b4b5b6b7b8b9c80b1b2b3b4b5b6",
  "b7b8b9c90b1b2b3b4b5b6b7b8b9d200b1b2b3b4b5b6b7b8b9c10b1b2b3b4b5b6b7b8b9c20b1b2b3b4b5b6b7b8b9c30",
  "b1b2b3b4b5b6b7b8b9c40b1b2b3b4b5b6b7b8b9c50b1b2b3b4b5b6"]

end ProposalCheck.Text.CharacterName
