/-!
# Names of symbols

The names of the characters from `U+2000` to `U+2FFF`, those with computed names aside, in the short
form that `CharacterName.search` reads (Unicode 14).
-/

namespace ProposalCheck.Text.CharacterName

/-- The names in punctuation, signs of currencies, numbers, arrows and signs of mathematics. -/
def symbolNames : List String := [
  "@2000@aEN QUADgM QUADgN SPACEhM SPACEiTHREE-PER-EM SPACEsFOUR-PER-EM SPACErSIX-PER-EM SPACEqFI",
  "GURE SPACEmPUNCTUATION SPACErTHIN SPACEkHAIR SPACEkZERO WIDTH SPACEfNON-JOINERkJOINERrLEFT-TO-",
  "]MARKsRIGHT-TO-LEFT?sHYPHENgNON-BREAKING HYPHENtFIGURE DASHlEN DASHgM DASHh(BARo:|LINEnLOW LIN",
  "Ep[SINGLE QUOTATION?zb]SINGLE QUOTATION?zcSINGLE LOW-9 QUOTATION?uHIGH-REVERSED-9 QUOTATION?zm",
  "[:QUOTATION?zb]:QUOTATION?zc:LOW-9 QUOTATION?uHIGH-REVERSED-9 QUOTATION?zlAGGERfOUBLE DAGGERnB",
  "ULLETgTRIANGULAR BULLETrONE DOT LEADERoTWO DOT LEADERo(ELLIPSISsYPHENATION POINTrLINE SEPARATO",
  "RoPARAGRAPH SEPARATORtLEFT-TO-]EMBEDDINGxRIGHT-TO-[EMBEDDINGxPOP DIRECTIONAL*ATTINGzbLEFT-TO-]",
  "OVERRIDEwRIGHT-TO-[OVERRIDEwN^ NO-BREAK SPACEvPER MILLE.kTEN THOUSAND.uRIMEf:PRIMEmTRIPLE PRIM",
  "EmREVERSED PRIMEf:PRIMEmTRIPLE PRIMEvCARETfSINGLE LEFT-POINTING ANGLE QUOTATION?zjRIGHT-POINTI",
  "NG ANGLE QUOTATION?zrREFERENCE?o:EXCLAMATION?xINTERROBANGlOVERLINEiUNDERTIEiCHARACTER TIEmARET",
  " INSERTION POINTvASTERISMiHYPHEN BULLETnFRACTION SLASHo[SQUARE BRACKET#QUILLzf]SQUARE BRACKET#",
  "QUILLzg:QUESTION?uQUESTION EXCLAMATION?zaEXCLAMATION QUESTION?zaTIRONIAN. ETqREVERSED PILCROW.",
  "v)<BULLETq>BULLETxLOW ASTERISKmREVERSED SEMICOLONsCLOSE UPiTWO ASTERISKS ALIGNED VERTICALLYzhC",
  "OMMERCIAL MINUS.vSWUNG DASHkINVERTED UNDERTIErFLOWER PUNCTUATION?xTHREE DOT PUNCTUATIONvQUADRU",
  "PLE PRIMEpFOUR DOT PUNCTUATIONtIVE DOT PUNCTUATIONuTWO DOT PUNCTUATIONtFOUR DOT?nDOTTED CROSSm",
  "TRICOLONi|FOUR DOTSsMEDIUM MATHEMATICAL SPACEzaWORD JOINERlFUNCTION APPLICATIONuINVISIBLE TIME",
  "SfSEPARATORjPLUS@2066@oLEFT-TO-]ISOLATEvRIGHT-TO-[ISOLATEvFIRST STRONG ISOLATEuPOP DIRECTIONAL",
  " ISOLATExINHIBIT SYMMETRIC SWAPPINGzbACTIVATE SYMMETRIC SWAPPINGzcINHIBIT ARABIC* SHAPINGzcACT",
  "IVATE ARABIC* SHAPINGzdNATIONAL DIGIT SHAPESuOMINAL DIGIT SHAPESuSUPERSCRIPT ZEROeLATIN %!I@20",
  "74@uFOURdIVEeSIXcEVENfEIGHTfNINEePLUS.jMINUSfEQUALS.l[PARENTHESISq]PARENTHESISrLATIN %!NzfBSCR",
  "IPT ZEROeONEdTWOcHREEfFOURdIVEeSIXcEVENfEIGHTfNINEePLUS.jMINUSfEQUALS.l[PARENTHESISq]PARENTHES",
  "IS@2090@zcLATIN SUBSCRIPT %!AbEbObXbSCHWAfHbKbLbMbNbPbSbT@20a0@zfEURO-CURRENCY.sCOLON.jRUZEIRO",
  ".nFRENCH FRANC.rLIRA.jMILL.jNAIRA.kPESETA.lRUPEE.kWON.iNEW SHEQEL.pDONG.jEURO.jKIP.iTUGRIK.lDR",
  "ACHMA.mGERMAN PENNY.rPESO.jGUARANI.mAUSTRAL.mHRYVNIA.mCEDI.jLIVRE TOURNOIS.tSPESMILO.nTENGE.kI",
  "NDIAN RUPEE.rTURKISH LIRA.rNORDIC?.qMANAT.kRUBLE.kLARI.jBITCOIN.mSOM.@20d0@iCOMBINING [HARPOON",
  "+s]HARPOON+tLONG |LINE OVERLAYzbSHORT |LINE OVERLAYzcANTICLOCKWISE ^+zaCLOCKWISE ^+v[^+q]^+pNG",
  " OVERLAYmCLOCKWISE RING OVERLAYwANTICLOCKWISE RING OVERLAYzbTHREE DOTS+qFOUR DOTS+pENCLOSING C",
  "IRCLEgSQUAREgDIAMONDhCIRCLE BACKSLASHzb[]^+wENCLOSING SCREENgKEYCAPgUPWARD POINTING ;zjREVERSE",
  " SOLIDUS OVERLAYx:|STROKE OVERLAYzfANNUITY SYMBOLoTRIPLE UNDERDOTpWIDE BRIDGE+r<^ OVERLAYwONG ",
  ":SOLIDUS OVERLAYzc>HARPOON#BARB DOWNWARDSzn<HARPOON#BARB DOWNWARDSzi ^,q]^,rASTERISK+@2100@yAC",
  "COUNT OFjDDRESSED TO THE SUBJECTyDOUBLE-STRUCK $CwEGREE CELSIUSoCENTRE LINE SYMBOLrARE OFfDA U",
  "NAiEULER CONSTANToSCRUPLEhDEGREE FAHRENHEITrSCRIPT %Gh$HqBLACK-!$HwDOUBLE-STRUCK $HxPLANCK CON",
  "STANTa OVER TWO PIzcSCRIPT $IqBLACK-!$IwSCRIPT $Lj%LoL B BAR SYMBOLoDOUBLE-STRUCK $NxNUMERO.lS",
  "OUND RECORDING COPYRIGHTyCRIPT $PqDOUBLE-STRUCK $PbQxSCRIPT $RqBLACK-!$RwDOUBLE-STRUCK $RxPRES",
  "CRIPTION TAKErRESPONSEiSERVICE?mTELEPHONE.nRADE?.pVERSICLEiDOUBLE-STRUCK $ZxOUNCE.jHM.iINVERTE",
  "D OHM.rBLACK-!$ZwTURNED GREEK %!IOTAzfKELVIN.lANGSTROM.nSCRIPT $BqBLACK-!$CwESTIMATED SYMBOLqS",
  "CRIPT %Eh$EbFqTURNED $FqSCRIPT $Mj%OoALEF SYMBOLlBET SYMBOLkGIMEL SYMBOLmDALET SYMBOLmINFORMAT",
  "ION SOURCEsROTATED $QrFACSIMILE.oDOUBLE-STRUCK %PIcGAMMAl$GAMMAfPIkN-ARY SUMMATIONzeTURNED SAN",
  "S-SERIF $GbLzcREVERSED SANS-SERIF $LzeTURNED SANS-SERIF $YzcDOUBLE-STRUCK ITALIC $Dj%DbEbIbJzd",
  "PROPERTY LINEnTURNED AMPERSANDqPER.iAKTIESELSKABmTURNED %Fo~FOR SAMARITAN SOURCEzcVULGAR FRACT",
  "ION ONE SEVENTHhNINTHfTENTHeHIRDjTWO THIRDSkONE FIFTHjTWO FIFTHSjHREE FIFTHSmFOUR FIFTHSlONE S",
  "IXTHjFIVE SIXTHSlONE EIGHTHkTHREE EIGHTHSnFIVE EIGHTHSmSEVEN EIGHTHSzeFRACTION NUMERATOR ONEwR",
  "OMAN NUMERAL ONEdTWOcHREEfFOURdIVEeSIXcEVENfEIGHTfNINEeTENdELEVENgTWELVEgFIFTYfONE HUNDREDlFIV",
  "E HUNDREDmONE THOUSANDzb%ROMAN NUMERAL ONEdTWOcHREEfFOURdIVEeSIXcEVENfEIGHTfNINEeTENdELEVENgTW",
  "ELVEgFIFTYfONE HUNDREDlFIVE HUNDREDmONE THOUSANDzhROMAN NUMERAL ONE THOUSAND C DqFIVE THOUSAND",
  "nTEN THOUSANDmREVERSED ONE HUNDREDzjLATIN %!REVERSED CzeROMAN NUMERAL SIX LATE*nFIFTY EARLY*kT",
  "HOUSANDoONE HUNDRED THOUSANDzjVULGAR FRACTION ZERO THIRDSzcTURNED DIGIT TWOcHREE@2190@s<^pUPWA",
  "RDS ^n>^qDOWNWARDS ^p[]^qUP DOWN ^nNORTH WEST ^kEAST ^qSOUTH EAST ^kWEST ^q<^#STROKEzc>^#STROK",
  "Ezd<WAVE ^u>WAVE ^v<TWO HEADED ^zbUPWARDS TWO HEADED ^y>TWO HEADED ^zcDOWNWARDS TWO HEADED ^zb",
  "<^#TAILza>^#TAILzb<^ FROM BARyUPWARDS ^ FROM BARw>^ FROM BARzaDOWNWARDS ^ FROM BARyUP DOWN ^#B",
  "ASEx<^#HOOKza>^#HOOKzb<^#LOOPza>^#LOOPzb[]WAVE ^k^#STROKEzdDOWNWARDS ZIGZAG ^wUPWARDS ^#TIP LE",
  "FTWARDSjRIGHTWARDSziDOWNWARDS ^#TIP LEFTWARDSjRIGHTWARDSzk>^#CORNER DOWNWARDSznDOWNWARDS ^#COR",
  "NER LEFTWARDSzmANTICLOCKWISE TOP SEMICIRCLE ^zjCLOCKWISE TOP SEMICIRCLE ^zfNORTH WEST ^ TO LON",
  "G BARzd<^ TO BAR OVER >^ TO BARzzbANTICLOCKWISE OPEN CIRCLE ^zgCLOCKWISE OPEN CIRCLE ^zc<HARPO",
  "ON#BARB UPWARDShDOWNWARDSzmUPWARDS HARPOON#BARB RIGHTWARDSkLEFTWARDSzk>HARPOON#BARB UPWARDShDO",
  "WNWARDSznDOWNWARDS HARPOON#BARB RIGHTWARDSkLEFTWARDSzm>^ OVER <^zmUPWARDS ^ <OF DOWNWARDS ^zr<",
  "^ OVER >^zcPAIRED ^SxUPWARDS PAIRED ^Sv>PAIRED ^SyDOWNWARDS PAIRED ^Sx<HARPOON OVER >HARPOONzq",
  ">HARPOON OVER <HARPOONzq<:^#STROKEzf ]:^#STROKEzk>:^#STROKEzk<:^wUPWARDS :^u>:^xDOWNWARDS :^w[",
  "]:^xUP DOWN :^uNORTH WEST :^rEAST :^xSOUTH EAST :^rWEST :^x<TRIPLE ^w>TRIPLE ^x<SQUIGGLE ^y>SQ",
  "UIGGLE ^zaUPWARDS ^#:STROKEzhDOWNWARDS ^#:STROKEzj<DASHED ^wUPWARDS DASHED ^u>DASHED ^xDOWNWAR",
  "DS DASHED ^w<^ TO BARw>^ TO BARx<WHITE ^vUPWARDS WHITE ^t>WHITE ^wDOWNWARDS WHITE ^vUPWARDS WH",
  "ITE ^ FROM BARiON PEDESTALa#(BARo|BARzk:^a ON PEDESTALzn>WHITE ^ FROM WALLzhNORTH WEST ^ TO CO",
  "RNERzbSOUTH EAST ^ TO CORNERzbUP DOWN WHITE ^t]^#%CIRCLEzeDOWNWARDS ^ <OF UPWARDS ^zrTHREE >^S",
  "x<^#|STROKEzl>^#|STROKEzm[]^#|STROKEziWARDS ^#:|STROKEzs>^#:|STROKEzt[]^#:|STROKEzpWARDS OPEN-",
  "HEADED ^zc>OPEN-HEADED ^zd[]OPEN-HEADED ^zdFOR ALLhCOMPLEMENTkPARTIAL DIFFERENTIALuTHERE EXIST",
  "SgDOES NOT EXISTuEMPTY SETjINCREMENTjNABLAfELEMENT OFkNOT AN ELEMENT OFr%ELEMENT OFqCONTAINS A",
  "S MEMBERsDOES NOT CONTAIN AS MEMBERzb%CONTAINS AS MEMBERyEND OF PROOFmN-ARY PRODUCThCOPRODUCTj",
  "SUMMATIONpMINUS.f-OR-PLUS.sDOT PLUShIVISION SLASHoSET MINUSjASTERISK OPERATORrRING OPERATORnBU",
  "LLET OPERATORpSQUARE ROOTlCUBE ROOTjFOURTH ROOTlPROPORTIONAL TOpINFINITYi]ANGLElANGLEfMEASURED",
  " ANGLEoSPHERICAL ANGLEpDIVIDESgOES NOT DIVIDEpPARALLEL TOlNOT PARALLEL TOpLOGICAL ANDdORkINTER",
  "SECTIONmUNIONfINTEGRALi:INTEGRALpTRIPLE INTEGRALpCONTOUR INTEGRALqSURFACE INTEGRALqVOLUME INTE",
  "GRALpCLOCKWISE INTEGRALiCONTOUR INTEGRALzbANTICLOCKWISE CONTOUR INTEGRALzfTHEREFOREjBECAUSEhRA",
  "TIOfPROPORTIONkDOT MINUSjEXCESSgGEOMETRIC PROPORTIONuHOMOTHETICkTILDE OPERATORoREVERSED TILDEo",
  "INVERTED LAZY SpSINE WAVEjWREATH PRODUCToNOT TILDEjMINUS TILDElASYMPTOTICALLY EQUAL TOxNOT ASY",
  "MPTOTICALLY EQUAL TOzcAPPROXIMATELY EQUAL TOiBUT NOT ACTUALLY EQUAL TOzoNEITHER APPROXIMATELY ",
  "NOR ACTUALLY EQUAL TOzsALMOST EQUAL TOpNOT ALMOST EQUAL TOtALMOST EQUAL OR EQUAL TOyTRIPLE TIL",
  "DEmALL EQUAL TOmEQUIVALENT TOnGEOMETRICALLY EQUIVALENT TOzcDIFFERENCE BETWEENsAPPROACHES THE L",
  "IMITuGEOMETRICALLY EQUAL TOwAPPROXIMATELY EQUAL TO OR THE IMAGE OFznIMAGE OF OR APPROXIMATELY ",
  "EQUAL TOzjCOLON EQUALSmEQUALS COLONmRING IN EQUAL TOlEQUAL TOnCORRESPONDS TOoESTIMATESiQUIANGU",
  "LAR TOoSTAR EQUALSlDELTA EQUAL TOoEQUAL TO BY DEFINITIONwMEASURED BYlQUESTIONED EQUAL TOtNOT E",
  "QUAL TOmIDENTICAL TOmNOT IDENTICAL TOqSTRICTLY EQUIVALENT TOwLESS-THAN OR EQUAL TOvGREATER-THA",
  "N OR EQUAL TOyLESS-THAN OVER EQUAL TOxGREATER-THAN OVER EQUAL TOzbLESS-THAN BUT NOT EQUAL TOzb",
  "GREATER-THAN BUT NOT EQUAL TOzeMUCH LESS-THANjGREATER-THANrBETWEENhNOT EQUIVALENT TOnLESS-THAN",
  "jGREATER-THANpEITHER LESS-THAN NOR EQUAL TOwGREATER-THAN NOR EQUAL TOziLESS-THAN OR EQUIVALENT",
  " TOzbGREATER-THAN OR EQUIVALENT TOzeNEITHER LESS-THAN NOR EQUIVALENT TOzcGREATER-THAN NOR EQUI",
  "VALENT TOznLESS-THAN OR GREATER-THANzaGREATER-THAN OR LESS-THANzaNEITHER LESS-THAN NOR GREATER",
  "-THANzbGREATER-THAN NOR LESS-THANzjPRECEDESiSUCCEEDSiPRECEDES OR EQUAL TOuSUCCEEDS OR EQUAL TO",
  "uPRECEDES OR EQUIVALENT TOzaSUCCEEDS OR EQUIVALENT TOzaDOES NOT PRECEDEhSUCCEEDqSUBSET OFhPERS",
  "ET OFlNOT A SUBSET OFhPERSET OFrSUBSET OF OR EQUAL TOtPERSET OF OR EQUAL TOxNEITHER A SUBSET O",
  "F NOR EQUAL TOuPERSET OF NOR EQUAL TOzjSUBSET OF#NOT EQUAL TOzaPERSET OF#NOT EQUAL TOzeMULTISE",
  "Ta MULTIPLICATIONoUNIONoSQUARE IMAGE OFiORIGINAL OFlIMAGE OF OR EQUAL TOuORIGINAL OF OR EQUAL ",
  "TOxCAPcUPkCIRCLED PLUSeMINUSfTIMESfDIVISION SLASHnOT OPERATORmRING OPERATORnASTERISK OPERATORr",
  "EQUALSgDASHmSQUARED PLUSeMINUSfTIMESfDOT OPERATORu]TACKk[TACKjDOWN TACKjUP TACKhASSERTIONjMODE",
  "LSgTRUEeFORCESgTRIPLE |BAR ]TURNSTILEzk:|BAR :]TURNSTILEzpES NOT PROVEoNOT TRUEiDOES NOT FORCE",
  "oNEGATED :|BAR :]TURNSTILEzzaPRECEDES UNDER RELATIONxSUCCEEDS UNDER RELATIONxNORMAL SUBGROUP O",
  "FsCONTAINS AS NORMAL SUBGROUPzcNORMAL SUBGROUP OF OR EQUAL TOzfCONTAINS AS NORMAL SUBGROUP OR ",
  "EQUAL TOzoORIGINAL OFlIMAGE OFiMULTIMAPiHERMITIAN CONJUGATE MATRIXzbINTERCALATElXORdNANDdORd]A",
  "NGLE#ARCo;oN-ARY LOGICAL ANDdORkINTERSECTIONmUNIONlDIAMOND OPERATORpOT OPERATORmSTAR OPERATORn",
  "DIVISION TIMESoBOWTIEg[NORMAL FACTOR SEMIDIRECT PRODUCTzm]NORMAL FACTOR SEMIDIRECT PRODUCTzn[S",
  "EMIDIRECT PRODUCTx]SEMIDIRECT PRODUCTxEVERSED TILDE EQUALSvCURLY LOGICAL ORcANDr:SUBSETePERSET",
  "iINTERSECTIONmUNIONmPITCHFORKjEQUAL&PARALLEL TOvLESS-THAN#DOTsGREATER-THAN#DOTvVERY MUCH LESS-",
  "THANjGREATER-THANwLESS-THAN EQUAL TO OR GREATER-THANzjGREATER-THAN EQUAL TO OR LESS-THANzjEQUA",
  "L TO OR LESS-THANjGREATER-THANmPRECEDESiSUCCEEDSuDOES NOT PRECEDE OR EQUALqSUCCEED OR EQUALzaN",
  "OT SQUARE IMAGE OF OR EQUAL TOuORIGINAL OF OR EQUAL TOzjSQUARE IMAGE OF OR NOT EQUAL TOyORIGIN",
  "AL OF OR NOT EQUAL TOzjLESS-THAN BUT NOT EQUIVALENT TOzgGREATER-THAN BUT NOT EQUIVALENT TOzjPR",
  "ECEDES BUT NOT EQUIVALENT TOzfSUCCEEDS BUT NOT EQUIVALENT TOzfNOT NORMAL SUBGROUP OFwDOES NOT ",
  "CONTAIN AS NORMAL SUBGROUPzkNOT NORMAL SUBGROUP OF OR EQUAL TOzjDOES NOT CONTAIN AS NORMAL SUB",
  "GROUP OR EQUALzt|ELLIPSISrMIDLINE (ELLIPSISzcUP ]DIAGONAL ELLIPSISzbDOWN ]DIAGONAL ELLIPSISzdE",
  "LEMENT OF#LONG (STROKEw|BAR AT END OF (STROKEzzg%ELEMENT OF#|BAR AT END OF (STROKEzzmELEMENT O",
  "F#DOT+jOVERBARx%ELEMENT OF#OVERBARzeELEMENT OF#UNDERBARiTWO (STROKESznCONTAINS#LONG (STROKEw|B",
  "AR AT END OF (STROKEzze%CONTAINS#|BAR AT END OF (STROKEzzkCONTAINS#OVERBARv%CONTAINS#OVERBARzc",
  "Z NOTATION BAG MEMBERSHIPzaDIAMETER.nELECTRIC ^oHOUSEfUP ^HEADmDOWN ^HEADoPROJECTIVEjERSPECTIV",
  "ElWAVY LINEj[CEILINGm]CEILINGn[FLOORk]FLOORlBOTTOM ]CROPk[CROPqTOP ]CROPk[CROPnREVERSED NOT.rS",
  "QUARE LOZENGEoARCdSEGMENTfCTORgTELEPHONE RECORDERsPOSITION INDICATORsVIEWDATA SQUAREpPLACE OF ",
  "INTEREST.wTURNED NOT.pWATCHfHOURGLASSjTOP [CORNERl]CORNERqBOTTOM [CORNERl]CORNERtTOP HALF INTE",
  "GRALrBOTTOM HALF INTEGRALuFROWNfSMILEfUP ^HEAD BETWEEN TWO (BARSzpOPTION KEYkERASE TO THE RIGH",
  "TsX IN A RECTANGLE BOXuKEYBOARDiLEFT-POINTING ANGLE BRACKETzcRIGHT-POINTING ANGLE BRACKETzdERA",
  "SE TO THE LEFTrBENZENE RINGmCYLINDRICITYmALL AROUND-PROFILEsSYMMETRYiTOTAL RUNOUTmDIMENSION OR",
  "IGINqCONICAL TAPERnSLOPEfCOUNTERBOREeSINKlAPL FUNCTIONAL ~I-BEAMgSQUISH QUADlQUAD EQUALfDIVIDE",
  "eAMONDhJOTdCIRCLElCIRCLE STILEfJOTkSLASH BARjBACKSLASH BARnQUAD SLASHfBACKSLASHjLESS-THANjGREA",
  "TER-THANr<VANEo>VANEpQUAD <^p>^vCIRCLE BACKSLASHqDOWN TACK UNDERBARrELTA STILElQUAD DOWN CARET",
  "jELTAkDOWN TACK JOTnUPWARDS VANEmQUAD UPWARDS ^sUP TACK OVERBARpDEL STILEjQUAD UP CARETiDELiUP",
  " TACK JOTlDOWNWARDS VANEoQUAD DOWNWARDS ^sOTE UNDERBARoDELTA UNDERBARnIAMOND UNDERBARqJOT UNDE",
  "RBARmCIRCLE UNDERBARpUP SHOE JOTlQUOTE QUADkCIRCLE STARlQUAD COLONkUP TACK DIAERESISrDEL DIAER",
  "ESISnSTAR DIAERESISoJOT DIAERESISnCIRCLE DIAERESISqDOWN SHOE STILEp[SHOE STILEpTILDE DIAERESIS",
  "pGREATER-THAN DIAERESISwCOMMA BARjDEL TILDEjZILDEfSTILE TILDEkEMICOLON UNDERBARsQUAD NOT EQUAL",
  "jQUESTIONnDOWN CARET TILDEqUP CARET TILDEoIOTAeRHOdOMEGAfALPHA UNDERBARoEPSILON UNDERBARqIOTA ",
  "UNDERBARnOMEGA UNDERBARoALPHAzcNOT CHECK?o]ANGLE#DOWNWARDS ZIGZAG ^zoSHOULDERED OPEN BOXtBELL ",
  "SYMBOLl|LINE#MIDDLE DOTzeINSERTION SYMBOLqCONTINUOUS UNDERLINE SYMBOLzcDISCONTINUOUS UNDERLINE",
  " SYMBOLzfEMPHASIS SYMBOLpCOMPOSITION SYMBOLsWHITE SQUARE#CENTRE |LINEznENTER SYMBOLmALTERNATIV",
  "E KEY SYMBOLwHELM SYMBOLlCIRCLED (BAR#NOTCHza; DOWNvBROKEN CIRCLE#NORTHWEST ^zjUNDO SYMBOLlMON",
  "OSTABLE SYMBOLrHYSTERESIS SYMBOLrOPEN-CIRCUIT-OUTPUT H-TYPE SYMBOLnL-TYPE SYMBOLziPASSIVE-PULL",
  "-DOWN-OUTPUT SYMBOLsUP-OUTPUT SYMBOLzeDIRECT CURRENT ~FORM TWOzfSOFTWARE-FUNCTION SYMBOLyAPL F",
  "UNCTIONAL ~QUADzbDECIMAL SEPARATOR KEY SYMBOLzdPREVIOUS PAGEnNEXT PAGEjPRINT SCREEN SYMBOLtCLE",
  "AR SCREEN SYMBOLt[PARENTHESIS UPPER HOOKkEXTENSIONjLOWER HOOKzc]PARENTHESIS UPPER HOOKkEXTENSI",
  "ONjLOWER HOOKzd[SQUARE BRACKET UPPER CORNERmEXTENSIONjLOWER CORNERzh]SQUARE BRACKET UPPER CORN",
  "ERmEXTENSIONjLOWER CORNERzi[CURLY BRACKET UPPER HOOKkMIDDLE PIECEmLOWER HOOKzeCURLY BRACKET EX",
  "TENSIONx]CURLY BRACKET UPPER HOOKkMIDDLE PIECEmLOWER HOOKzfINTEGRAL EXTENSIONs(LINE EXTENSIONz",
  "aUPPER [OR LOWER ]CURLY BRACKET SECTIONzq]OR LOWER [CURLY BRACKET SECTIONzwSUMMATION TOPdBOTTO",
  "MqTOP SQUARE BRACKETsBOTTOM SQUARE BRACKETa OVER TOP SQUARE BRACKETzuRADICAL ~BOTTOMv[|BOX LIN",
  "Ew]|BOX LINEx(SCAN LINE-1b3b7b9wDENTISTRY ~LIGHT |AND TOP RIGHTjBOTTOM RIGHTqWITH CIRCLEuDOWN&",
  "(WITH CIRCLEzgUP&(WITH CIRCLEze|WITH ;wDOWN&(WITH ;ziUP&(WITH ;zg|AND WAVErDOWN&(WITH WAVEzeUP",
  "&(WITH WAVEzcDOWN&HORIZONTALtUP&HORIZONTALr|AND TOP LEFTiBOTTOM LEFTzwSQUARE FOOTlRETURN SYMBO",
  "LnEJECT SYMBOLm|LINE EXTENSIONxMETRICAL BREVEfLONG OVER SHORTpSHORT OVER LONGpLONG OVER TWO SH",
  "ORTSuTWO SHORTS OVER LONGjJOINEDqRISEMEgETRASEMEjPENTASEMEsEARTH GROUNDmFUSEeTOP PARENTHESISpB",
  "OTTOM PARENTHESISsTOP CURLY BRACKETrBOTTOM CURLY BRACKETuTOP TORTOISE SHELL BRACKETzbBOTTOM TO",
  "RTOISE SHELL BRACKETzeWHITE TRAPEZIUMpBENZENE RING#CIRCLEySTRAIGHTNESSmFLATNESSiAC CURRENTkELE",
  "CTRICAL INTERSECTIONxDECIMAL EXPONENT SYMBOLx)RIGHT-POINTING :;zfLEFT-POINTING :;zeUP-POINTING",
  " :;zcDOWN-POINTING :;zeRIGHT-POINTING :;#|BARzxLEFT-POINTING :;#|BARzwRIGHT-POINTING ;#:|BARzz",
  "eALARM CLOCKlSTOPWATCHjTIMER CLOCKlHOURGLASS#FLOWING SANDzc)MEDIUM LEFT-POINTING ;wRIGHT-POINT",
  "ING ;xUP-POINTING ;uDOWN-POINTING ;zk:|BARt)SQUARE FOR STOPpCIRCLE FOR RECORDxPOWER SYMBOLgON-",
  "OFF SYMBOLl SYMBOLjSLEEP SYMBOLsOBSERVER EYE SYMBOLt~FOR NULLeSTART OF HEADINGhTEXTnEND OF TEX",
  "TdRANSMISSIONrQUIRYhACKNOWLEDGElBELLdACKSPACEj(TABULATIONvLINE FEEDj|TABULATIONtFORM FEEDjCARR",
  "IAGE RETURNpSHIFT OUTdINiDATA LINK ESCAPEpEVICE CONTROL ONEdTWOcHREEfFOURtNEGATIVE ACKNOWLEDGE",
  "uSYNCHRONOUS IDLEqEND OF TRANSMISSION BLOCKzaCANCELgEND OF MEDIUMnSUBSTITUTEkESCAPEgFILE SEPAR",
  "ATORoGROUP SEPARATORpRECORD SEPARATORqUNIT SEPARATORoSPACEfDELETErBLANK SYMBOLmOPEN BOXi~FOR N",
  "EWLINEhDELETE* TWOpSUBSTITUTE* TWO@2440@zfOCR HOOKeCHAIRfFORKeINVERTED FORKnBELT BUCKLEkOW TIE",
  "gRANCH BANK IDENTIFICATIONzbAMOUNT OF CHECKpDASHeCUSTOMER ACCOUNT NUMBERx:BACKSLASH@2460@uCIRC",
  "LED DIGIT ONEdTWOcHREEfFOURdIVEeSIXcEVENfEIGHTfNINEkNUMBER TENdELEVENgTWELVEfHIRTEENiFOURTEENh",
  "IFTEENhSIXTEENgEVENTEENjEIGHTEENiNINETEENiTWENTYvPARENTHESIZED DIGIT ONEdTWOcHREEfFOURdIVEeSIX",
  "cEVENfEIGHTfNINEkNUMBER TENdELEVENgTWELVEfHIRTEENiFOURTEENhIFTEENhSIXTEENgEVENTEENjEIGHTEENiNI",
  "NETEENiTWENTYzcDIGIT ONE FULL STOPnTWO FULL STOPmHREE FULL STOPpFOUR FULL STOPnIVE FULL STOPoS",
  "IX FULL STOPmEVEN FULL STOPpEIGHT FULL STOPpNINE FULL STOPuNUMBER TEN FULL STOPnELEVEN FULL ST",
  "OPqTWELVE FULL STOPpHIRTEEN FULL STOPsFOURTEEN FULL STOPrIFTEEN FULL STOPrSIXTEEN FULL STOPqEV",
  "ENTEEN FULL STOPtEIGHTEEN FULL STOPsNINETEEN FULL STOPsTWENTY FULL STOPxPARENTHESIZED LATIN %!",
  "AbBbCbDbEbFbGbHbIbJbKbLbMbNbObPbQbRbSbTbUbVbWbXbYbZzjCIRCLED LATIN $!AbBbCbDbEbFbGbHbIbJbKbLbM",
  "bNbObPbQbRbSbTbUbVbWbXbYbZq%!AbBbCbDbEbFbGbHbIbJbKbLbMbNbObPbQbRbSbTbUbVbWbXbYbZuDIGIT ZEROsNE",
  "GATIVE CIRCLED NUMBER ELEVENgTWELVEfHIRTEENiFOURTEENhIFTEENhSIXTEENgEVENTEENjEIGHTEENiNINETEEN",
  "iTWENTYzf:CIRCLED DIGIT ONEdTWOcHREEfFOURdIVEeSIXcEVENfEIGHTfNINEkNUMBER TENzaNEGATIVE CIRCLED",
  " DIGIT ZEROzcBOX DRAWINGS LIGHT HORIZONTALqHEAVY HORIZONTALqLIGHT VERTICALoHEAVY VERTICALoLIGH",
  "T TRIPLE DASH HORIZONTALzdHEAVY TRIPLE DASH HORIZONTALzdLIGHT TRIPLE DASH VERTICALzbHEAVY TRIP",
  "LE DASH VERTICALzbLIGHT QUADRUPLE DASH HORIZONTALzgHEAVY QUADRUPLE DASH HORIZONTALzgLIGHT QUAD",
  "RUPLE DASH VERTICALzeHEAVY QUADRUPLE DASH VERTICALzeLIGHT DOWN&RIGHTuDOWN LIGHT&]HEAVYvHEAVY&]",
  "LIGHTzbHEAVY DOWN&RIGHTuLIGHT DOWN&LEFTtDOWN LIGHT&[HEAVYuHEAVY&[LIGHTzaHEAVY DOWN&LEFTtLIGHT ",
  "UP&RIGHTsUP LIGHT&]HEAVYvHEAVY&]LIGHTyHEAVY UP&RIGHTsLIGHT UP&LEFTrUP LIGHT&[HEAVYuHEAVY&[LIGH",
  "TxHEAVY UP&LEFTrLIGHT |AND RIGHTy|LIGHT&]HEAVYzfUP HEAVY&]DOWN LIGHTzeDOWN HEAVY&]UP LIGHTze|H",
  "EAVY&]LIGHTzfDOWN LIGHT&]UP HEAVYzeUP LIGHT&]DOWN HEAVYzeHEAVY |AND RIGHTyLIGHT |AND LEFTx|LIG",
  "HT&[HEAVYzeUP HEAVY&[DOWN LIGHTzdDOWN HEAVY&[UP LIGHTzd|HEAVY&[LIGHTzeDOWN LIGHT&[UP HEAVYzdUP",
  " LIGHT&[DOWN HEAVYzdHEAVY |AND LEFTxLIGHT DOWN&HORIZONTALyEFT HEAVY&]DOWN LIGHTzg]HEAVY&[DOWN ",
  "LIGHTzgDOWN LIGHT&(HEAVYzbHEAVY&(LIGHTzg]LIGHT&[DOWN HEAVYzg[LIGHT&]DOWN HEAVYzgHEAVY DOWN&HOR",
  "IZONTALzaLIGHT UP&HORIZONTALwEFT HEAVY&]UP LIGHTze]HEAVY&[UP LIGHTzeUP LIGHT&(HEAVYzbHEAVY&(LI",
  "GHTze]LIGHT&[UP HEAVYze[LIGHT&]UP HEAVYzeHEAVY UP&HORIZONTALxLIGHT |AND HORIZONTALzdEFT HEAVY&",
  "]|LIGHTzk]HEAVY&[|LIGHTzk|LIGHT&(HEAVYzkUP HEAVY&DOWN (LIGHTzjDOWN HEAVY&UP (LIGHTzj|HEAVY&(LI",
  "GHTzk[UP HEAVY&]DOWN LIGHTzj]UP HEAVY&[DOWN LIGHTzj[DOWN HEAVY&]UP LIGHTzj]DOWN HEAVY&[UP LIGH",
  "TzjDOWN LIGHT&UP (HEAVYzjUP LIGHT&DOWN (HEAVYzj]LIGHT&[|HEAVYzk[LIGHT&]|HEAVYzkHEAVY |AND HORI",
  "ZONTALzeLIGHT :DASH HORIZONTALzdHEAVY :DASH HORIZONTALzdLIGHT :DASH VERTICALzbHEAVY :DASH VERT",
  "ICALzb:HORIZONTALkVERTICALnWN SINGLE&]DOUBLEx:AND ]SINGLEzbUBLE DOWN&RIGHTtWN SINGLE&[DOUBLEw:",
  "AND [SINGLEzaUBLE DOWN&LEFTuUP SINGLE&]DOUBLEx:AND ]SINGLEzb:UP&RIGHTtUP SINGLE&[DOUBLEw:AND [",
  "SINGLEza:UP&LEFTs|SINGLE&]DOUBLEx:AND ]SINGLEzh:|AND RIGHTza|SINGLE&[DOUBLEw:AND [SINGLEzg:|AN",
  "D LEFTwWN SINGLE&(DOUBLEzd:AND (SINGLEzgUBLE DOWN&HORIZONTALzbUP SINGLE&(DOUBLEzd:AND (SINGLEz",
  "g:UP&HORIZONTALy|SINGLE&(DOUBLEzd:AND (SINGLEzm:|AND HORIZONTALzfLIGHT ARC DOWN&RIGHTfLEFTnUP&",
  "LEFTeRIGHTqDIAGONAL UPPER ]TO LOWER LEFTt[TO LOWER RIGHTzaCROSSoLEFTeUPcRIGHTfDOWNkHEAVY LEFTe",
  "UPcRIGHTfDOWNkLIGHT LEFT&HEAVY RIGHTuUP&HEAVY DOWNxHEAVY LEFT&LIGHT RIGHTuUP&LIGHT DOWNzlUPPER",
  " HALF BLOCKqLOWER ONE EIGHTH BLOCKmQUARTER BLOCKrTHREE EIGHTHS BLOCKtHALF BLOCKkFIVE EIGHTHS B",
  "LOCKsTHREE QUARTERS BLOCKuSEVEN EIGHTHS BLOCKzaFULL BLOCKk[SEVEN EIGHTHS BLOCKtTHREE QUARTERS ",
  "BLOCKuFIVE EIGHTHS BLOCKsHALF BLOCKkTHREE EIGHTHS BLOCKtONE QUARTER BLOCKnEIGHTH BLOCKv]HALF B",
  "LOCKqLIGHT SHADElMEDIUM SHADEmDARK SHADEkUPPER ONE EIGHTH BLOCKw]ONE EIGHTH BLOCKwQUADRANT LOW",
  "ER LEFTeRIGHTlUPPER LEFTa&LOWER LEFT&LOWER RIGHTuRIGHTlUPPER ]AND LOWER LEFTeRIGHTzlRIGHTa&LOW",
  "ER LEFTa&LOWER RIGHTzzb)SQUAREmWHITE SQUAREa#ROUNDED CORNERSuCONTAINING )%SQUAREzrSQUARE#(FILL",
  "p|FILLnORTHOGONAL CROSSHATCH FILLzbUPPER [TO LOWER ]FILLy]TO LOWER [FILLzfDIAGONAL CROSSHATCH ",
  "FILLzl)%SQUAREsWHITE %SQUAREs)RECTANGLEpWHITE RECTANGLEp)|RECTANGLEyWHITE |RECTANGLEy)PARALLEL",
  "OGRAMtWHITE PARALLELOGRAMt)UP-POINTING ;zbWHITE UP-POINTING ;zb)UP-POINTING %;zhWHITE UP-POINT",
  "ING %;zh)RIGHT-POINTING ;zeWHITE RIGHT-POINTING ;ze)RIGHT-POINTING %;zkWHITE RIGHT-POINTING %;",
  "zk)RIGHT-POINTING POINTERzdWHITE RIGHT-POINTING POINTERzd)DOWN-POINTING ;zdWHITE DOWN-POINTING",
  " ;zd)DOWN-POINTING %;zjWHITE DOWN-POINTING %;zj)LEFT-POINTING ;zdWHITE LEFT-POINTING ;zd)LEFT-",
  "POINTING %;zjWHITE LEFT-POINTING %;zj)LEFT-POINTING POINTERzcWHITE LEFT-POINTING POINTERzc)DIA",
  "MONDnWHITE DIAMONDa CONTAINING )%DIAMONDztFISHEYEhLOZENGEhWHITE CIRCLEmDOTTED CIRCLEnCIRCLE#|F",
  "ILLzaBULLSEYEhLACK CIRCLEmCIRCLE#[HALF BLACKp]HALF BLACKqLOWER HALF BLACKqUPPER HALF BLACKk]QU",
  "ADRANT BLACKzbALL BUT UPPER [QUADRANT BLACKzu[HALF )CIRCLEw]HALF )CIRCLExINVERSE BULLETgWHITE ",
  "CIRCLEuUPPER HALF INVERSE WHITE CIRCLEzgLOWER HALF INVERSE WHITE CIRCLEzgUPPER [QUADRANT CIRCU",
  "LAR ARCzb]QUADRANT CIRCULAR ARCziLOWER ]QUADRANT CIRCULAR ARCzc[QUADRANT CIRCULAR ARCzhUPPER H",
  "ALF CIRCLErLOWER HALF CIRCLEr)LOWER ];o[;tUPPER [;n];zbWHITE BULLETmSQUARE#[HALF BLACKp]HALF B",
  "LACKqUPPER [DIAGONAL HALF BLACKzfLOWER ]DIAGONAL HALF BLACKzsWHITE SQUARE#|BISECTING LINEzkUP-",
  "POINTING ;#DOTzkUP-POINTING ;#[HALF BLACKp]HALF BLACKzrLARGE CIRCLEmWHITE SQUARE#UPPER [QUADRA",
  "NTtLOWER [QUADRANTn]QUADRANTuUPPER ]QUADRANTzhCIRCLE#UPPER [QUADRANTtLOWER [QUADRANTn]QUADRANT",
  "uUPPER ]QUADRANTznUPPER [;n];uLOWER [;tWHITE MEDIUM SQUAREt)MEDIUM SQUAREtWHITE MEDIUM %SQUARE",
  "za)MEDIUM %SQUAREzaLOWER ];u)SUN#RAYStCLOUDfUMBRELLAiSNOWMANhCOMETf)STARkWHITE STARkLIGHTNINGj",
  "THUNDERSTORMmSUNdASCENDING NODEoDESCENDING NODEpCONJUNCTIONlOPPOSITIONk)TELEPHONEpWHITE TELEPH",
  "ONEpBALLOT BOXa#CHECKfXrSALTIREhUMBRELLA#RAIN DROPSyHOT BEVERAGEmWHITE SHOGI PIECEr)SHOGI PIEC",
  "ErSHAMROCKiREVERSED ROTATED FLORAL HEART BULLETzl)[POINTING INDEXt]POINTING INDEXzbWHITE [POIN",
  "TING INDEXtUP POINTING INDEXr]POINTING INDEXuDOWN POINTING INDEXzaSKULL&CROSSBONESuCAUTION.mRA",
  "DIOACTIVE.qBIOHAZARD.oCADUCEUSiANKHeORTHODOX CROSSoCHI RHOgROSS OF LORRAINEiJERUSALEMsSTAR&CRE",
  "SCENTrFARSI SYMBOLmADI SHAKTIkHAMMER&SICKLErPEACE SYMBOLmYIN YANGiTRIGRAM FOR HEAVENgLAKEeFIRE",
  "eTHUNDERhWINDdATERfMOUNTAINiEARTHrWHEEL OF DHARMAnITE FROWNING FACEnSMILING FACEs)SMILING FACE",
  "sWHITE SUN#RAYStFIRST QUARTER MOONsLAST QUARTER MOONrMERCURYhFEMALE.lEARTHfMALE.jJUPITERhSATUR",
  "NgURANUSgNEPTUNEhPLUTOfARIESfTAURUSgGEMINIgCANCERgLEOdVIRGOfLIBRAfSCORPIUShAGITTARIUSlCAPRICOR",
  "NjAQUARIUSiPISCESgWHITE CHESS KINGeQUEENfROOKeBISHOPgKNIGHTgPAWNq)CHESS KINGeQUEENfROOKeBISHOP",
  "gKNIGHTgPAWNkSPADE SUITqWHITE HEART SUITkDIAMOND SUITs)CLUB SUITpWHITE SPADE SUITq)HEART SUITk",
  "DIAMOND SUITsWHITE CLUB SUITpHOT SPRINGSlQUARTER NOTEmEIGHTH NOTElBEAMED EIGHTH NOTESmSIXTEENT",
  "H NOTESwMUSIC FLAT.jNATURAL.mSHARP.qWEST SYRIAC CROSSrEAST SYRIAC CROSSrUNIVERSAL RECYCLING SY",
  "MBOLzbRECYCLING ~FOR TYPE-1 PLASTICSk2 PLASTICSk3 PLASTICSk4 PLASTICSk5 PLASTICSk6 PLASTICSk7 ",
  "PLASTICSpGENERIC MATERIALSzn)UNIVERSAL RECYCLING SYMBOLzhRECYCLED PAPER SYMBOLvPARTIALLY-RECYC",
  "LED PAPER SYMBOLzfERMANENT PAPER.uWHEELCHAIR SYMBOLrDIE FACE-1b2b3b4b5b6kWHITE CIRCLE#DOT RIGH",
  "TjTWO DOTSzb)CIRCLE#WHITE DOT RIGHTpTWO WHITE DOTSzhMONOGRAM FOR YANGdINqDIGRAM FOR GREATER YA",
  "NGmLESSER YINcANGlGREATER YINwWHITE FLAGk)FLAGkHAMMER&PICKpANCHORgCROSSED SWORDSoSTAFF OF AESC",
  "ULAPIUStCALESgALEMBIChFLOWERgGEAReSTAFF OF HERMESpATOM SYMBOLlFLEUR-DE-LISmOUTLINED WHITE STAR",
  "tTHREE LINES CONVERGING RIGHTfLEFTzcWARNING.mHIGH VOLTAGE.rDOUBLED FEMALE.lMALE.rINTERLOCKED F",
  "EMALE&MALE.zhMALE&FEMALE.pWITH STROKE.eAND MALE&FEMALE.zq|MALE#STROKE.zf(MALE#STROKE.zhMEDIUM ",
  "WHITE CIRCLEm)CIRCLEm%WHITE CIRCLEyARRIAGE SYMBOLpDIVORCE SYMBOLoUNMARRIED PARTNERSHIP SYMBOLz",
  "dCOFFINgFUNERAL URNlNEUTERgCERESfPALLASgJUNOeVESTAfCHIRONg)MOON LILITHrSEXTILEfMISEXTILElQUINC",
  "UNXiSESQUIQUADRATEnOCCER BALLlBASEBALLiSQUARED KEYlWHITE DRAUGHTS MANdKINGt)DRAUGHTS MANdKINGt",
  "SNOWMAN WITHOUT SNOWtUN BEHIND CLOUDqRAINe)SNOWMANnTHUNDER CLOUD&RAINvURNED WHITE SHOGI PIECEr",
  ")SHOGI PIECEyWHITE DIAMOND IN SQUARExCROSSING LANESoDISABLED CARmOPHIUCHUSjPICKeCAR SLIDINGlHE",
  "LMET#WHITE CROSSxCIRCLED CROSSING LANESvHAINSgNO ENTRYiALTERNATE ONE-WAY [WAY TRAFFICzj)TWO-WA",
  "Y [WAY TRAFFICzfWHITE TWO-WAY [WAY TRAFFICzf)[LANE MERGEvWHITE [LANE MERGEvDRIVE SLOW.pHEAVY W",
  "HITE DOWN-POINTING ;zj[CLOSED ENTRYrSQUARED SALTIREpFALLING DIAGONAL IN WHITE CIRCLE IN )SQUAR",
  "Ezx)TRUCKlRESTRICTED [ENTRY-1b2xASTRONOMICAL ~FOR URANUSzfHEAVY CIRCLE#STROKE&TWO DOTS+zsPENTA",
  "GRAMjRIGHT-HANDED INTERLACED PENTAGRAMziLEFT-HANDED INTERLACED PENTAGRAMzhINVERTED PENTAGRAMs)",
  "CROSS ON SHIELDvSHINTO SHRINEnCHURCHfASTLEgHISTORIC SITEnGEAR WITHOUT HUBh HANDLESrMAP ~FOR LI",
  "GHTHOUSEyOUNTAINiUMBRELLA ON GROUNDsFOUNTAINhLAG IN HOLElERRYfSAILBOAThQUARE FOUR CORNERSsKIER",
  "fICE SKATEjPERSON#BALLqTENTeJAPANESE BANK SYMBOLuHEADSTONE GRAVEYARD SYMBOLzbFUEL PUMPjCUP ON ",
  ")SQUAREtWHITE FLAG#(MIDDLE )STRIPEzv)SAFETY SCISSORSvUPPER BLADE SCISSORSu)SCISSORSoLOWER BLAD",
  "E SCISSORSuWHITE SCISSORSiHEAVY CHECK?wTELEPHONE LOCATION.wAPE DRIVEkAIRPLANEiENVELOPEiRAISED ",
  "FISTeHANDlVICTORY HANDmWRITING HANDmLOWER ]PENCILsPENCILgUPPER ]PENCILsWHITE NIBj)NIBjCHECK?kH",
  "EAVY CHECK?qMULTIPLICATION XqHEAVY MULTIPLICATION XwBALLOT XiHEAVY BALLOT XoOUTLINED GREEK CRO",
  "SSuHEAVY GREEK CROSSrOPEN CENTRE CROSSrHEAVY OPEN CENTRE CROSSxLATIN CROSSlSHADOWED WHITE LATI",
  "N CROSSzbOUTLINED LATIN CROSSuMALTESE CROSSnSTAR OF DAVIDnFOUR TEARDROP-SPOKED ASTERISKyBALLOO",
  "N-SPOKED ASTERISKzdHEAVY FOUR BALLOON-SPOKED ASTERISKzjFOUR CLUB-SPOKED ASTERISKza)FOUR POINTE",
  "D STARxWHITE FOUR POINTED STARxSPARKLEShTRESS OUTLINED WHITE STARzbCIRCLED WHITE STARsOPEN CEN",
  "TRE )STARw)CENTRE WHITE STARxOUTLINED )STARtHEAVY OUTLINED )STARzaPINWHEEL STARnSHADOWED WHITE",
  " STARtHEAVY ASTERISKoOPEN CENTRE ASTERISKuEIGHT SPOKED ASTERISKpPOINTED )STARkPINWHEEL STARzcS",
  "IX POINTED )STARwEIGHT POINTED RECTILINEAR )STARzlHEAVY EIGHT POINTED RECTILINEAR )STARzrTWELV",
  "E POINTED )STARzaSIXTEEN POINTED ASTERISKyTEARDROP-SPOKED ASTERISKyOPEN CENTRE TEARDROP-SPOKED",
  " ASTERISKzlHEAVY TEARDROP-SPOKED ASTERISKzfSIX PETALLED )AND WHITE FLORETTEzm)FLORETTEoWHITE F",
  "LORETTEoEIGHT PETALLED OUTLINED )FLORETTEznCIRCLED OPEN CENTRE EIGHT POINTED STARznHEAVY TEARD",
  "ROP-SPOKED PINWHEEL ASTERISKzoSNOWFLAKEjTIGHT TRIFOLIATE SNOWFLAKEzbHEAVY CHEVRON SNOWFLAKExSP",
  "ARKLEhHEAVY SPARKLEnBALLOON-SPOKED ASTERISKxEIGHT TEARDROP-SPOKED PROPELLER ASTERISKzpHEAVY EI",
  "GHT TEARDROP-SPOKED PROPELLER ASTERISKzvCROSS?kSHADOWED WHITE CIRCLEvNEGATIVE SQUARED CROSS?zc",
  "LOWER ]DROP-SHADOWED WHITE SQUAREznUPPER ]DROP-SHADOWED WHITE SQUAREznLOWER ]SHADOWED WHITE SQ",
  "UAREziUPPER ]SHADOWED WHITE SQUAREzi)QUESTION? ORNAMENTzdWHITE QUESTION? ORNAMENTwEXCLAMATION?",
  " ORNAMENTzg)DIAMOND MINUS WHITE XzcHEAVY EXCLAMATION? SYMBOLzeLIGHT |BARsMEDIUM |BARtHEAVY |BA",
  "RmSINGLE TURNED COMMA QUOTATION? ORNAMENTzlCOMMA QUOTATION? ORNAMENTzl:TURNED COMMA QUOTATION?",
  " ORNAMENTzlCOMMA QUOTATION? ORNAMENTzlLOW SINGLE COMMA QUOTATION? ORNAMENTzl:COMMA QUOTATION? ",
  "ORNAMENTzvCURVED STEM PARAGRAPH. ORNAMENTzkHEAVY EXCLAMATION? ORNAMENTzaHEART EXCLAMATION? ORN",
  "AMENTzg)HEARTrROTATED HEAVY )HEART BULLETzhFLORAL HEARTmROTATED FLORAL HEART BULLETzcMEDIUM [P",
  "ARENTHESIS ORNAMENTza]PARENTHESIS ORNAMENTzbFLATTENED [PARENTHESIS ORNAMENTza]PARENTHESIS ORNA",
  "MENTzlLEFT-POINTING ANGLE BRACKET ORNAMENTzlRIGHT-POINTING ANGLE BRACKET ORNAMENTztHEAVY LEFT-",
  "POINTING ANGLE QUOTATION? ORNAMENTzsRIGHT-POINTING ANGLE QUOTATION? ORNAMENTztLEFT-POINTING AN",
  "GLE BRACKET ORNAMENTzlRIGHT-POINTING ANGLE BRACKET ORNAMENTzsLIGHT [TORTOISE SHELL BRACKET ORN",
  "AMENTzl]TORTOISE SHELL BRACKET ORNAMENTzsMEDIUM [CURLY BRACKET ORNAMENTzc]CURLY BRACKET ORNAME",
  "NTzkDINGBAT NEGATIVE CIRCLED DIGIT ONEdTWOcHREEfFOURdIVEeSIXcEVENfEIGHTfNINEkNUMBER TENzcCIRCL",
  "ED SANS-SERIF DIGIT ONEdTWOcHREEfFOURdIVEeSIXcEVENfEIGHTfNINEkNUMBER TENzeNEGATIVE CIRCLED SAN",
  "S-SERIF DIGIT ONEdTWOcHREEfFOURdIVEeSIXcEVENfEIGHTfNINEkNUMBER TENzvHEAVY WIDE-HEADED >^zdPLUS",
  ".jMINUS.kDIVISION.nSOUTH EAST ^q>^qNORTH EAST ^wDRAFTING POINT >^zgHEAVY ROUND-TIPPED >^zk;-HE",
  "ADED >^zhHEAVY ;-HEADED >^znDASHED ;-HEADED >^zoHEAVY DASHED ;-HEADED >^zu)>^wTHREE-D TOP-LIGH",
  "TED >^HEADzhBOTTOM-LIGHTED >^HEADzs)>^HEADzbHEAVY )CURVED DOWNWARDS&>^zfUPWARDS&>^zwSQUAT )>^z",
  "dHEAVY CONCAVE-POINTED )>^ztRIGHT-SHADED WHITE >^zkLEFT-SHADED WHITE >^zjBACK-TILTED SHADOWED ",
  "WHITE >^zsFRONT-TILTED SHADOWED WHITE >^ztHEAVY LOWER RIGHT-SHADOWED WHITE >^zsUPPER RIGHT-SHA",
  "DOWED WHITE >^zyNOTCHED LOWER RIGHT-SHADOWED WHITE >^zzbCURLY LOOPkNOTCHED UPPER RIGHT-SHADOWE",
  "D WHITE >^zzbCIRCLED HEAVY WHITE >^zlWHITE-FEATHERED >^zhBLACK-FEATHERED SOUTH EAST ^q>^qNORTH",
  " EAST ^zhHEAVY BLACK-FEATHERED SOUTH EAST ^q>^qNORTH EAST ^znTEARDROP-BARBED >^zhHEAVY TEARDRO",
  "P-SHANKED >^zoWEDGE-TAILED >^zeHEAVY WEDGE-TAILED >^zkOPEN-OUTLINED >^zf:CURLY LOOPrTHREE DIME",
  "NSIONAL ANGLExWHITE ; CONTAINING %WHITE ;zvPERPENDICULARnOPEN SUBSETePERSETn[S-SHAPED BAG DELI",
  "MITERzc]S-SHAPED BAG DELIMITERzdOR#DOT INSIDEsREVERSE SOLIDUS PRECEDING SUBSETzhSUPERSET PRECE",
  "DING SOLIDUSzb|BAR#(STROKEzkMATHEMATICAL RISING DIAGONALzdLONG DIVISIONnMATHEMATICAL FALLING D",
  "IAGONALzeSQUARED LOGICAL ANDdORsWHITE DIAMOND#CENTRED DOTzfAND#DOTmELEMENT OF OPENING UPWARDSz",
  "bLOWER ]CORNER#DOTzcUPPER [CORNER#DOTzb[OUTER JOINp]OUTER JOINqFULL OUTER JOINpLARGE UP TACKhD",
  "OWN TACKoEFT&]:TURNSTILEqTACKoMULTIMAPmONG ]TACKk[TACKoUP TACK#CIRCLE+zaLOZENGE DIVIDED BY (RU",
  "LEzjWHITE CONCAVE-SIDED DIAMONDa#<TICKo>TICKzrSQUARE#<TICKo>TICKziMATHEMATICAL [WHITE SQUARE B",
  "RACKETza]WHITE SQUARE BRACKETzb[ANGLE BRACKETs]ANGLE BRACKETt[:ANGLE BRACKETza]:ANGLE BRACKETz",
  "b[WHITE TORTOISE SHELL BRACKETzi]WHITE TORTOISE SHELL BRACKETzj[FLATTENED PARENTHESISzb]FLATTE",
  "NED PARENTHESISzpUPWARDS QUADRUPLE ^xDOWNWARDS QUADRUPLE ^zaANTICLOCKWISE GAPPED CIRCLE ^ziCLO",
  "CKWISE GAPPED CIRCLE ^ze]^#CIRCLED PLUSzeLONG <^p>^q[]^mWARDS :^w>:^x[]:^tWARDS ^ FROM BARy>^ ",
  "FROM BARza<:^ FROM BARzg>:^ FROM BARvSQUIGGLE ^zfBRAILLE PATTERN BLANKfDOTS-1b2b12c3b13c23c123",
  "d4b14c24c124d34c134d234d1234e5b15c25c125d35c135d235d1235e45c145d245d1245e345d1345e2345e12345f6",
  "b16c26c126d36c136d236d1236e46c146d246d1246e346d1346e2346e12346f56c156d256d1256e356d1356e2356e1",
  "2356f456d1456e2456e12456f3456e13456f23456f123456g7b17c27c127d37c137d237d1237e47c147d247d1247e3",
  "47d1347e2347e12347f57c157d257d1257e357d1357e2357e12357f457d1457e2457e12457f3457e13457f23457f12",
  "3457g67c167d267d1267e367d1367e2367e12367f467d1467e2467e12467f3467e13467f23467f123467g567d1567e",
  "2567e12567f3567e13567f23567f123567g4567e14567f24567f124567g34567f134567g234567g1234567h8b18c28",
  "c128d38c138d238d1238e48c148d248d1248e348d1348e2348e12348f58c158d258d1258e358d1358e2358e12358f4",
  "58d1458e2458e12458f3458e13458f23458f123458g68c168d268d1268e368d1368e2368e12368f468d1468e2468e1",
  "2468f3468e13468f23468f123468g568d1568e2568e12568f3568e13568f23568f123568g4568e14568f24568f1245",
  "68g34568f134568g234568g1234568h78c178d278d1278e378d1378e2378e12378f478d1478e2478e12478f3478e13",
  "478f23478f123478g578d1578e2578e12578f3578e13578f23578f123578g4578e14578f24578f124578g34578f134",
  "578g234578g1234578h678d1678e2678e12678f3678e13678f23678f123678g4678e14678f24678f124678g34678f1",
  "34678g234678g1234678h5678e15678f25678f125678g35678f135678g235678g1235678h45678f145678g245678g1",
  "245678h345678g1345678h2345678h12345678ze>TWO-HEADED ^#|STROKEp:|STROKEzzf<:^#|STROKEzs>:^#|STR",
  "OKEzt[]:^#|STROKEzt>TWO-HEADED ^ FROM BARzl<:^ FROM BARzg>:^ FROM BARzhDOWNWARDS ^#(STROKEznUP",
  "WARDS ^#(STROKEzdTRIPLE ^uDOWNWARDS TRIPLE ^w<:DASH ^zc>:DASH ^zd<TRIPLE DASH ^zc>TRIPLE DASH ",
  "^qWO-HEADED TRIPLE DASH ^zd^#DOTTED STEMziUPWARDS ^ TO BARuDOWNWARDS ^ TO BARw>^#TAIL#|STROKEp",
  ":|STROKEzsTWO-HEADED ^#TAILa#|STROKEp:|STROKEzzp<^-TAILu>^-TAILv<:^-TAILzc>:^-TAILzd<^ TO )DIA",
  "MONDzh>^ TO )DIAMONDzi<^ FROM BAR TO )DIAMONDzq>^ FROM BAR TO )DIAMONDzrNORTH WEST&SOUTH EAST ",
  "^zaEAST&SOUTH WEST ^zaWEST ^#HOOKuEAST ^#HOOKzbSOUTH EAST ^#HOOKuWEST ^#HOOKzbNORTH WEST ^&NOR",
  "TH EAST ^zgEAST ^&SOUTH EAST ^zmSOUTH EAST ^&SOUTH WEST ^zgWEST ^&NORTH WEST ^zmRISING DIAGONA",
  "L CROSSING FALLING DIAGONALzqFALLING DIAGONAL CROSSING RISING DIAGONALzqSOUTH EAST ^ CROSSING ",
  "NORTH EAST ^zrNORTH EAST ^ CROSSING SOUTH EAST ^zrFALLING DIAGONAL CROSSING NORTH EAST ^zrRISI",
  "NG DIAGONAL CROSSING SOUTH EAST ^zqNORTH EAST ^ CROSSING NORTH WEST ^zlWEST ^ CROSSING NORTH E",
  "AST ^zrWAVE ^ POINTING DIRECTLY RIGHTzj^ POINTING >THEN CURVING UPWARDShDOWNWARDSziDOWNWARDS T",
  "HEN CURVING LEFTWARDSjRIGHTWARDSzxRIGHT-SIDE ARC CLOCKWISE ^zfLEFT-SIDE ARC ANTICLOCKWISE ^ziT",
  "OP ARC ANTICLOCKWISE ^zcBOTTOM ARC ANTICLOCKWISE ^zfTOP ARC CLOCKWISE ^#MINUSzbANTICLOCKWISE ^",
  "#PLUSzmLOWER ]SEMICIRCULAR CLOCKWISE ^zj[SEMICIRCULAR ANTICLOCKWISE ^zsANTICLOCKWISE CLOSED CI",
  "RCLE ^ziCLOCKWISE CLOSED CIRCLE ^ze>^+ SHORT <^zt<^+ SHORT >^ztSHORT >^+ <^zt>^#PLUS,zh<^#PLUS",
  ",zg>^ THROUGH Xzb[]^ THROUGH %CIRCLEzmUPWARDS TWO-HEADED ^ FROM %CIRCLEzr[BARB UP ]BARB DOWN H",
  "ARPOONzbDOWN ]BARB UP HARPOONzlUP BARB ]DOWN BARB [HARPOONzd[DOWN BARB ]HARPOONzl[BARB UP ]BAR",
  "B UP HARPOONzjUP BARB ]DOWN BARB ]HARPOONzm[BARB DOWN ]BARB DOWN HARPOONznUP BARB [DOWN BARB [",
  "HARPOONzk<HARPOON#BARB UP TO BARzm>HARPOON#BARB UP TO BARznUPWARDS HARPOON#BARB ]TO BARznDOWNW",
  "ARDS HARPOON#BARB ]TO BARzp<HARPOON#BARB DOWN TO BARzo>HARPOON#BARB DOWN TO BARzpUPWARDS HARPO",
  "ON#BARB [TO BARzmDOWNWARDS HARPOON#BARB [TO BARzo<HARPOON#BARB UP FROM BARzo>HARPOON#BARB UP F",
  "ROM BARzpUPWARDS HARPOON#BARB ]FROM BARzpDOWNWARDS HARPOON#BARB ]FROM BARzr<HARPOON#BARB DOWN ",
  "FROM BARzq>HARPOON#BARB DOWN FROM BARzrUPWARDS HARPOON#BARB [FROM BARzoDOWNWARDS HARPOON#BARB ",
  "[FROM BARzq<HARPOON#BARB UP+ <HARPOON#BARB DOWNzztUPWARDS HARPOON#BARB [BESIDE UPWARDS HARPOON",
  "#BARB RIGHTzzt>HARPOON#BARB UP+ >HARPOON#BARB DOWNzzvDOWNWARDS HARPOON#BARB [BESIDE DOWNWARDS ",
  "HARPOON#BARB RIGHTzzx<HARPOON#BARB UP+ >HARPOON#BARB UPzpDOWN+ >HARPOON#BARB DOWNzzw>HARPOON#B",
  "ARB UP+ <HARPOON#BARB UPzoDOWN+ <HARPOON#BARB DOWNzzw<HARPOON#BARB UP+ LONG DASHsDOWN, LONG DA",
  "SHzx>HARPOON#BARB UP+ LONG DASHsDOWN, LONG DASHzyUPWARDS HARPOON#BARB [BESIDE DOWNWARDS HARPOO",
  "N#BARB RIGHTzzvDOWNWARDS HARPOON#BARB [BESIDE UPWARDS HARPOON#BARB RIGHTzzv]:^#ROUNDED HEADzlE",
  "QUALS.+ >^zjTILDE OPERATOR+ >^zm<^+ TILDE OPERATORzl>^+ TILDE OPERATORoALMOST EQUAL TOznLESS-T",
  "HAN+ <^zeFTWARDS ^ THROUGH LESS-THANziGREATER-THAN+ >^zkSUBSET+ >^ze<^ THROUGH SUBSETzfSUPERSE",
  "T+ <^zf[FISH TAILo]FISH TAILpUP FISH TAILmDOWN FISH TAILoTRIPLE |BAR DELIMITERzeZ NOTATION SPO",
  "TeTYPE COLONv[WHITE CURLY BRACKETy]WHITE CURLY BRACKETza[WHITE PARENTHESISw]WHITE PARENTHESISx",
  "Z NOTATION [IMAGE BRACKETs]IMAGE BRACKETt[BINDING BRACKETu]BINDING BRACKETzh[SQUARE BRACKET#UN",
  "DERBARzi]SQUARE BRACKET#UNDERBARzj[SQUARE BRACKET#TICK IN TOP CORNERzs]SQUARE BRACKET#TICK IN ",
  "BOTTOM CORNERzw[SQUARE BRACKET#TICK IN BOTTOM CORNERzv]SQUARE BRACKET#TICK IN TOP CORNERzt[ANG",
  "LE BRACKET#DOTzc]ANGLE BRACKET#DOTzd[ARC LESS-THAN BRACKETzb]ARC GREATER-THAN BRACKETzf:[ARC G",
  "REATER-THAN BRACKETze]ARC LESS-THAN BRACKETzj[)TORTOISE SHELL BRACKETzi])TORTOISE SHELL BRACKE",
  "TzjDOTTED FENCEm|ZIGZAG LINEuMEASURED ANGLE OPENING LEFTzc]ANGLE VARIANT#SQUAREzgMEASURED ]ANG",
  "LE#DOTzeANGLE#S INSIDEsCUTE ANGLElSPHERICAL ANGLE OPENING LEFTeUPzbTURNED ANGLEmREVERSED ANGLE",
  "oANGLE#UNDERBARtREVERSED ANGLE#UNDERBARzdOBLIQUE ANGLE OPENING UPcDOWNzbMEASURED ANGLE#OPEN AR",
  "M ENDING IN ^ POINTING UP&RIGHTfLEFTlDOWN&RIGHTfLEFTn]AND UPmLEFT&UPl]AND DOWNoLEFT&DOWNzzrREV",
  "ERSED EMPTY SETsEMPTY SET#OVERBARh%CIRCLE+s]^+r[^+zgCIRCLE#(BARuD |BARmPARALLELiREVERSE SOLIDU",
  "SpPERPENDICULARp DIVIDED BY (BAR&TOP HALF DIVIDED BY |BARzzmWITH SUPERIMPOSED XuD ANTICLOCKWIS",
  "E-ROTATED DIVISION.zsUP ^ THROUGH CIRCLExCIRCLED WHITE BULLETmBULLETgLESS-THANjGREATER-THANo#%",
  "CIRCLE TO THE RIGHTzaTWO (STROKES TO THE RIGHTzwSQUARED RISING DIAGONAL SLASHvFALLING DIAGONAL",
  " SLASHwASTERISKi%CIRCLElQUAREoTWO JOINED SQUARESrRIANGLE#DOT+jUNDERBARwS IN ;n;#SERIFS AT BOTT",
  "OMzf];+ [;zj[; BESIDE |BARzi|BAR BESIDE ];zjBOWTIE#[HALF BLACKp]HALF BLACKzcLACK BOWTIEmTIMES#",
  "[HALF BLACKp]HALF BLACKzcWHITE HOURGLASSp)HOURGLASSp[WIGGLY FENCEr]WIGGLY FENCEs[:WIGGLY FENCE",
  "y]:WIGGLY FENCEzaINCOMPLETE INFINITYtTIE OVER INFINITYrINFINITY NEGATED#|BARzjDOUBLE-ENDED MUL",
  "TIMAPvSQUARE#CONTOURED OUTLINEzeINCREASES ASmSHUFFLE PRODUCTpEQUALS.&SLANTED PARALLELa#TILDE+z",
  "yIDENTICAL TO&SLANTED PARALLELziGLEICH STARKmTHERMODYNAMICnDOWN-POINTING ;#[HALF BLACKp]HALF B",
  "LACKzt)DIAMOND#DOWN ^xLOZENGEnWHITE CIRCLE#DOWN ^zd)CIRCLE#DOWN ^zdERROR-BARRED WHITE SQUAREm)",
  "SQUAREmWHITE DIAMONDn)DIAMONDnWHITE CIRCLEm)CIRCLEzaRULE-DELAYEDlEVERSE SOLIDUS OPERATORySOLID",
  "US#OVERBARuREVERSE SOLIDUS#(STROKEznBIG SOLIDUShREVERSE SOLIDUSt:PLUSlTRIPLE PLUSlLEFT-POINTIN",
  "G CURVED ANGLE BRACKETzjRIGHT-POINTING CURVED ANGLE BRACKETzkTINYeMINYeN-ARY CIRCLED DOT OPERA",
  "TORmPLUS OPERATORnTIMES OPERATORwUNION OPERATOR#DOTdPLUSySQUARE INTERSECTION OPERATORvUNION OP",
  "ERATORzcTWO LOGICAL&OPERATORmOR OPERATORxN-ARY TIMES OPERATORuMODULO TWO SUMoSUMMATION#INTEGRA",
  "LxQUADRUPLE INTEGRAL OPERATORzcFINITE PART INTEGRALuINTEGRAL#:STROKEsAVERAGE#SLASHzcCIRCULATIO",
  "N FUNCTIONuANTICLOCKWISE INTEGRATIONzaLINE INTEGRATION#RECTANGULAR PATH AROUND POLEzdSEMICIRCU",
  "LAR PATH AROUND POLEzjNOT INCLUDING THE POLEzoINTEGRAL AROUND A POINT OPERATORzhQUATERNION INT",
  "EGRAL OPERATORzdINTEGRAL#<^#HOOKzaTIMES.kINTERSECTIONmUNIONfOVERBARhUNDERBARwJOINeLARGE [; OPE",
  "RATORzdZ NOTATION SCHEMA COMPOSITIONlPIPINGfROJECTIONzdPLUS.#%CIRCLE+sCIRCUMFLEX ACCENT+xTILDE",
  "+lDOT,jTILDE,lSUBSCRIPT TWOn);zeMINUS.#COMMA+lDOT,jFALLING DOTSmRISING DOTSzcPLUS. IN [HALF CI",
  "RCLEq]HALF CIRCLEzfVECTOR OR CROSS PRODUCTxMULTIPLICATION.#DOT+jUNDERBARziSEMIDIRECT PRODUCT#B",
  "OTTOM CLOSEDzlMASH PRODUCTnMULTIPLICATION. IN [HALF CIRCLEq]HALF CIRCLEzpCIRCLED MULTIPLICATIO",
  "N.#CIRCUMFLEX ACCENTzzaMULTIPLICATION. IN :CIRCLEzlCIRCLED DIVISION.vPLUS. IN ;vMINUS. IN ;vUL",
  "TIPLICATION. IN ;zgINTERIOR PRODUCTqRIGHTHAND INTERIOR PRODUCTzbZ NOTATION RELATIONAL COMPOSIT",
  "IONziAMALGAMATION OR COPRODUCTzaINTERSECTION#DOTvUNION#MINUS.kOVERBARsINTERSECTION#OVERBARhLOG",
  "ICAL ANDzeUNION#LOGICAL ORpABOVE INTERSECTIONyINTERSECTION+ UNIONyUNION+ BAR+ INTERSECTIONzjIN",
  "TERSECTION+ BAR+ UNIONzjUNION BESIDE&JOINED#UNIONzjINTERSECTION BESIDE&JOINED#INTERSECTIONzxCL",
  "OSED UNION#SERIFSrINTERSECTION#SERIFSzg:SQUARE INTERSECTIONmUNIONtCLOSED UNION#SERIFS&SMASH PR",
  "ODUCTzrLOGICAL AND#DOT+sOR#DOT+za:LOGICAL ANDdORrTWO INTERSECTING LOGICAL ANDdORzcSLOPING LARG",
  "E ORcANDrLOGICAL OR OVERLAPPING LOGICAL ANDzbAND#MIDDLE STEMuOR#MIDDLE STEMtAND#(DASHyOR#(DASH",
  "xAND#:OVERBARoUNDERBARi:UNDERBARzh%VEE#UNDERBARxLOGICAL OR#:OVERBARhUNDERBARzgZ NOTATION DOMAI",
  "N ANTIRESTRICTIONwRANGE ANTIRESTRICTIONzhEQUALS.#DOT,zbIDENTICAL#DOT+yTRIPLE (BAR#:|STROKEwTRI",
  "PLE |STROKEzxILDE OPERATOR#DOT+jRISING DOTSzgSIMILAR MINUS SIMILARvCONGRUENT#DOT+yEQUALS#ASTER",
  "ISKuALMOST EQUAL TO#CIRCUMFLEX ACCENTzmPPROXIMATELY EQUAL OR EQUAL TOzgEQUALS.+ PLUS.zcPLUS.+ ",
  "EQUALS.zcEQUALS.+ TILDE OPERATORzh:COLON EQUALsTWO CONSECUTIVE EQUALS.SzcHREE CONSECUTIVE EQUA",
  "LS.SzfEQUALS.#TWO DOTS+&TWO DOTS,zwIVALENT#FOUR DOTS+zgLESS-THAN#CIRCLE INSIDEzdGREATER-THAN#C",
  "IRCLE INSIDEzgLESS-THAN#QUESTION?+zjGREATER-THAN#QUESTION?+zmLESS-THAN OR SLANTED EQUAL TOzeGR",
  "EATER-THAN OR SLANTED EQUAL TOzhLESS-THAN OR SLANTED EQUAL TO#DOT INSIDEzuGREATER-THAN OR SLAN",
  "TED EQUAL TO#DOT INSIDEzxLESS-THAN OR SLANTED EQUAL TO#DOT+ztGREATER-THAN OR SLANTED EQUAL TO#",
  "DOT+zwLESS-THAN OR SLANTED EQUAL TO#DOT+ RIGHTzzaGREATER-THAN OR SLANTED EQUAL TO#DOT+ LEFTzzc",
  "LESS-THAN OR APPROXIMATEyGREATER-THAN OR APPROXIMATEzcLESS-THAN&SINGLE-LINE NOT EQUAL TOznGREA",
  "TER-THAN&SINGLE-LINE NOT EQUAL TOzqLESS-THAN&NOT APPROXIMATEzeGREATER-THAN&NOT APPROXIMATEzhLE",
  "SS-THAN+ DOUBLE-LINE EQUAL+ GREATER-THANzzcGREATER-THAN+ DOUBLE-LINE EQUAL+ LESS-THANzzcLESS-T",
  "HAN+ SIMILAR OR EQUALzhGREATER-THAN+ SIMILAR OR EQUALzkLESS-THAN+ SIMILAR+ GREATER-THANzrGREAT",
  "ER-THAN+ SIMILAR+ LESS-THANzrLESS-THAN+ GREATER-THAN+ DOUBLE-LINE EQUALzzcGREATER-THAN+ LESS-T",
  "HAN+ DOUBLE-LINE EQUALzzcLESS-THAN+ SLANTED EQUAL+ GREATER-THAN+ SLANTED EQUALzzsGREATER-THAN+",
  " SLANTED EQUAL+ LESS-THAN+ SLANTED EQUALzzsSLANTED EQUAL TO OR LESS-THANjGREATER-THANmLESS-THA",
  "N#DOT INSIDEzaGREATER-THAN#DOT INSIDEzxDOUBLE-LINE EQUAL TO OR LESS-THANjGREATER-THANySLANTED ",
  "EQUAL TO OR LESS-THANjGREATER-THANztSIMILAR OR LESS-THANjGREATER-THANpABOVE LESS-THAN+ EQUALS.",
  "zcGREATER-THAN+ EQUALS.zt:NESTED LESS-THANjGREATER-THANmLESS-THAN#UNDERBARzmGREATER-THAN OVERL",
  "APPING LESS-THANvBESIDE LESS-THANzeLESS-THAN CLOSED BY CURVEzaGREATER-THAN CLOSED BY CURVEzdLE",
  "SS-THAN CLOSED BY CURVE+ SLANTED EQUALzuGREATER-THAN CLOSED BY CURVE+ SLANTED EQUALzxSMALLER T",
  "HANmLARGER THANlSMALLER THAN OR EQUAL TOyLARGER THAN OR EQUAL TOxEQUALS.#BUMPY+zdPRECEDES+ SIN",
  "GLE-LINE EQUALS.znSUCCEEDS+ SINGLE-LINE EQUALS.znPRECEDES+ SINGLE-LINE NOT EQUAL TOzoSUCCEEDS+",
  " SINGLE-LINE NOT EQUAL TOzoPRECEDES+ EQUALS.zbSUCCEEDS+ EQUALS.zbPRECEDES+ NOT EQUAL TOzcSUCCE",
  "EDS+ NOT EQUAL TOzcPRECEDES+ ALMOST EQUAL TOzfSUCCEEDS+ ALMOST EQUAL TOzfPRECEDES+ NOT ALMOST ",
  "EQUAL TOzjSUCCEEDS+ NOT ALMOST EQUAL TOzj:PRECEDESiSUCCEEDSpSUBSET#DOTnPERSET#DOTpBSET#PLUS.,z",
  "aPERSET#PLUS.,zcBSET#MULTIPLICATION.,zkPERSET#MULTIPLICATION.,zmBSET OF OR EQUAL TO#DOT+zjPERS",
  "ET OF OR EQUAL TO#DOT+zlBSET OF+ EQUALS.zaPERSET OF+ EQUALS.zcBSET OF+ TILDE OPERATORzdPERSET ",
  "OF+ TILDE OPERATORzfBSET OF+ ALMOST EQUAL TOzePERSET OF+ ALMOST EQUAL TOzgBSET OF+ NOT EQUAL T",
  "OzbPERSET OF+ NOT EQUAL TOzeQUARE [OPEN BOX OPERATORw]OPEN BOX OPERATORzfCLOSED SUBSETePERSETg",
  "BSET OR EQUAL TOqPERSET OR EQUAL TOzcSUBSET+ SUPERSETtPERSET+ SUBSETtBSET+ SUBSETrPERSET+ SUPE",
  "RSEToBESIDE SUBSETgAND JOINED BY DASH#SUBSETzvELEMENT OF OPENING DOWNWARDSzdPITCHFORK#TEE TOPw",
  "TRANSVERSAL INTERSECTIONyFORKINGhNONFORKINGkSHORT [TACKjDOWN TACKjUP TACKnPERPENDICULAR#Su|BAR",
  " TRIPLE ]TURNSTILEzk:|BAR [TURNSTILEzj|BAR :[TURNSTILEzj:|BAR :[TURNSTILEzqLONG DASH FROM [MEM",
  "BER OF :VERTICALzuSHORT DOWN TACK#OVERBARwUP TACK#UNDERBARnABOVE SHORT DOWN TACKzk:DOWN TACKjU",
  "P TACKhSTROKE NOT.wREVERSED :STROKE NOT.zgDOES NOT DIVIDE#REVERSED NEGATION SLASHzt|LINE#CIRCL",
  "E+fBELOWzgDOWN TACK#CIRCLE,zcPARALLEL#(STROKErTILDE OPERATORzdTRIPLE |BAR BINARY RELATIONpWITH",
  " (STROKEzkCOLON OPERATORoNESTED LESS-THANjGREATER-THANzbDOUBLE-LINE SLANTED LESS-THAN OR EQUAL",
  " TOvGREATER-THAN OR EQUAL TOztTRIPLE SOLIDUS BINARY RELATIONzfLARGE TRIPLE |BAR OPERATORzj:SOL",
  "IDUS OPERATORxWHITE |BARsN-ARY WHITE |BARxORTH EAST WHITE ^qWEST WHITE ^wSOUTH EAST WHITE ^qWE",
  "ST WHITE ^w[]WHITE ^sWARDS )^vUPWARDS )^tDOWNWARDS )^vNORTH EAST )^qWEST )^wSOUTH EAST )^qWEST",
  " )^w[])^wUP DOWN )^t>^#TIP DOWNWARDSjUPWARDSzi<^#TIP DOWNWARDSjUPWARDSzhSQUARE#TOP HALF BLACKo",
  "BOTTOM HALF BLACKrUPPER ]DIAGONAL HALF BLACKzgLOWER [DIAGONAL HALF BLACKzrDIAMOND#[HALF BLACKp",
  "]HALF BLACKqTOP HALF BLACKoBOTTOM HALF BLACKzeOTTED SQUAREn)LARGE SQUAREsWHITE LARGE SQUAREs)V",
  "ERY %SQUARExWHITE VERY %SQUAREx)PENTAGONoWHITE PENTAGONiHEXAGONn)HEXAGONn()HEXAGONy)LARGE CIRC",
  "LEmMEDIUM DIAMONDuWHITE MEDIUM DIAMONDu)MEDIUM LOZENGEuWHITE MEDIUM LOZENGEu)%DIAMONDhLOZENGEt",
  "WHITE %LOZENGEt)(ELLIPSEyWHITE (ELLIPSEy)|ELLIPSEwWHITE |ELLIPSEw[^#%CIRCLEzdTHREE <^Sw[^#CIRC",
  "LED PLUSzcONG <SQUIGGLE ^zdEFTWARDS TWO-HEADED ^#|STROKEp:|STROKEzcFROM BARoTRIPLE DASH ^zd^#D",
  "OTTED STEMlTAIL#|STROKEp:|STROKEzsTWO-HEADED ^#TAILa#|STROKEp:|STROKEzze^ THROUGH XzaWAVE ^ PO",
  "INTING DIRECTLY LEFTziEQUALS.+ <^ziREVERSE TILDE OPERATOR+ <^zt<^+ REVERSE ALMOST EQUAL TOzu>^",
  " THROUGH GREATER-THANmSUPERSETzi<QUADRUPLE ^za>QUADRUPLE ^zaEVERSE TILDE OPERATOR+ >^ztIGHTWAR",
  "DS ^+ REVERSE ALMOST EQUAL TOzvTILDE OPERATOR+ <^zl<^+ ALMOST EQUAL TOpREVERSE TILDE OPERATORz",
  "t>^+ REVERSE TILDE OPERATORzuDOWNWARDS ;-HEADED ZIGZAG ^znSHORT SLANTED NORTH ^tBACKSLANTED SO",
  "UTH ^zeWHITE MEDIUM STARr)%STARqWHITE %STARq)RIGHT-POINTING PENTAGONzeWHITE RIGHT-POINTING PEN",
  "TAGONzeHEAVY LARGE CIRCLEmOVAL#OVAL INSIDEvCIRCLE#CIRCLE INSIDEtaD SALTIREvSLANTED NORTH ^#HOO",
  "KED HEADzlBACKSLANTED SOUTH ^#HOOKED TAILzpSLANTED NORTH ^#(TAILzpBACKSLANTED SOUTH ^#(TAILzsE",
  "NT ^ POINTING DOWNWARDS THEN NORTH EASTzuSHORT BENT ^ POINTING DOWNWARDS THEN NORTH EASTzzb<;-",
  "HEADED ^zgUPWARDS ;-HEADED ^ze>;-HEADED ^zhDOWNWARDS ;-HEADED ^zg[];-HEADED ^zhUP DOWN ;-HEADE",
  "D ^zeNORTH WEST ;-HEADED ^zbEAST ;-HEADED ^zhSOUTH EAST ;-HEADED ^zbWEST ;-HEADED ^zh<;-HEADED",
  " DASHED ^znUPWARDS ;-HEADED DASHED ^zl>;-HEADED DASHED ^zoDOWNWARDS ;-HEADED DASHED ^znCLOCKWI",
  "SE ;-HEADED OPEN CIRCLE ^zsANTICLOCKWISE ;-HEADED OPEN CIRCLE ^zw<;-HEADED ^ TO BARznUPWARDS ;",
  "-HEADED ^ TO BARzl>;-HEADED ^ TO BARzoDOWNWARDS ;-HEADED ^ TO BAR@2b76@znNORTH WEST ;-HEADED ^",
  " TO BARziEAST ;-HEADED ^ TO BARzoSOUTH EAST ;-HEADED ^ TO BARziWEST ;-HEADED ^ TO BARzo<;-HEAD",
  "ED ^#:(STROKEzzlUPWARDS ;-HEADED ^#:(STROKEzzj>;-HEADED ^#:(STROKEzzmDOWNWARDS ;-HEADED ^#:(ST",
  "ROKEzzl(TAB KEYs|TAB KEYq<;-HEADED ^ OVER >;-HEADED ^zztUPWARDS ;-HEADED ^ <OF DOWNWARDS ;-HEA",
  "DED ^zzy>;-HEADED ^ OVER <;-HEADED ^zztDOWNWARDS ;-HEADED ^ <OF UPWARDS ;-HEADED ^zzy<;-HEADED",
  " PAIRED ^SzoUPWARDS ;-HEADED PAIRED ^Szm>;-HEADED PAIRED ^SzpDOWNWARDS ;-HEADED PAIRED ^Szo<)C",
  "IRCLED WHITE ^zkUPWARDS )CIRCLED WHITE ^zi>)CIRCLED WHITE ^zlDOWNWARDS )CIRCLED WHITE ^zkANTIC",
  "LOCKWISE ;-HEADED ]U-SHAPED ^uBOTTOM U-SHAPED ^v[U-SHAPED ^tTOP U-SHAPED ^zxRETURN LEFTeRIGHTm",
  "NEWLINE LEFTeRIGHTnFOUR CORNER ^S CIRCLING ANTICLOCKWISEzq>)^@2b97@w~FOR TYPE A ELECTRONICSzeT",
  "HREE-D TOP-LIGHTED <EQUILATERAL ^HEADzsRIGHT-LIGHTED UPWARDS EQUILATERAL ^HEADzsTOP-LIGHTED >E",
  "QUILATERAL ^HEADztLEFT-LIGHTED DOWNWARDS EQUILATERAL ^HEADzzc)<EQUILATERAL ^HEADzgUPWARDS EQUI",
  "LATERAL ^HEADze>EQUILATERAL ^HEADzhDOWNWARDS EQUILATERAL ^HEADzmDOWNWARDS ;-HEADED ^#LONG TIP ",
  "LEFTWARDSjRIGHTWARDSzzgUPWARDS ;-HEADED ^#LONG TIP LEFTWARDSjRIGHTWARDSzze<;-HEADED ^#LONG TIP",
  " UPWARDSzzd>;-HEADED ^#LONG TIP UPWARDSzze<;-HEADED ^#LONG TIP DOWNWARDSzzf>;-HEADED ^#LONG TI",
  "P DOWNWARDSzzg)CURVED DOWNWARDS&<^p>^zfUPWARDS&<^p>^zd<AND UPWARDS ^zc>AND UPWARDS ^zd<AND DOW",
  "NWARDS ^ze>AND DOWNWARDS ^zsRIBBON ^ DOWN LEFTeRIGHTkUP LEFTeRIGHTi[UPh]UPi[DOWNj]DOWNxUPWARDS",
  " WHITE ^ FROM BAR#(BARzv ^HEAD IN A RECTANGLE BOXzgOVERLAPPING WHITE SQUAREShAND )SQUARESx)SQU",
  "ARESzaBALLOT BOX#LIGHT XxCIRCLED XbBOLD Xo)SQUARE CENTREDoDIAMOND CENTREDvTURNED )PENTAGONv()O",
  "CTAGONy)OCTAGONhMEDIUM UP-POINTING ; CENTREDzdDOWN-POINTING ; CENTREDzfLEFT-POINTING ; CENTRED",
  "zfRIGHT-POINTING ; CENTREDztNEPTUNE* TWOqTOP HALF )CIRCLEvBOTTOM HALF )CIRCLEyLIGHT FOUR POINT",
  "ED )CUSPzeROTATED LIGHT FOUR POINTED )CUSPzmWHITE FOUR POINTED CUSPxROTATED WHITE FOUR POINTED",
  " CUSPzgSQUARE POSITION INDICATORzaUNCERTAINTY.qGROUP?kPLUTO* TWOcHREEfFOURdIVEpTRANSPLUTOkPROS",
  "ERPINAkASTRAEAhHYGIEAgPHOLUSgNESSUSgWHITE MOON SELENAr)DIAMOND ON CROSSwTRUE LIGHT MOON ARTAuC",
  "UPIDOgHADESfZEUSeKRONOSgAPOLLONgDMETOShVULCANUSiPOSEIDONi[HALF )STARu]HALF )STARvSTAR#[HALF BL",
  "ACKp]HALF BLACKzb<TWO-HEADED ^#; ^HEADSzzbUPWARDS TWO-HEADED ^#; ^HEADSzy>TWO-HEADED ^#; ^HEAD",
  "SzzcDOWNWARDS TWO-HEADED ^#; ^HEADSzzbERIS* ONEdTWOnSEDNAfRUSSIAN ASTROLOGICAL ~VIGINTILEjNOVI",
  "LEgQUINTILEiBINOVILEiSENTAGONiTREDECILEzmEQUALS.#INFINITY,zgUNITED SYMBOLnSEPARATED SYMBOLqDOU",
  "BLED SYMBOLoPASSED SYMBOLnREVERSED ]ANGLEuHELLSCHREIBER PAUSE SYMBOLzbGLAGOLITIC $!AZUdBUKYeVE",
  "DEeGLAGOLIhDOBROfYESTUfZHIVETEhDZELOfZEMLJAgIZHEdNITIAL IZHElbDJERVIgKAKOeLJUDIJEhMYSLITEhNASH",
  "IfONUdPOKOJIgRITSIfSLOVOfTVRIDOgUKUdFRITUfHERUeOTUdPEcSHTAeTSIdCHRIVIgSHAdYERUbIdATIeSPIDERY H",
  "AkYUc%YUSa#TAILtYOcIOTATED %YUSrBIG YUShIOTATED BIG YUSpFITAeIZHITSAhSHTAPIChTROKUTASTI AmLATI",
  "NATE MYSLITEqCAUDATE CHRIVIze%!AZUdBUKYeVEDEeGLAGOLIhDOBROfYESTUfZHIVETEhDZELOfZEMLJAgIZHEdNIT",
  "IAL IZHElbDJERVIgKAKOeLJUDIJEhMYSLITEhNASHIfONUdPOKOJIgRITSIfSLOVOfTVRIDOgUKUdFRITUfHERUeOTUdP",
  "EcSHTAeTSIdCHRIVIgSHAdYERUbIdATIeSPIDERY HAkYUc%YUSa#TAILtYOcIOTATED %YUSrBIG YUShIOTATED BIG ",
  "YUSpFITAeIZHITSAhSHTAPIChTROKUTASTI AmLATINATE MYSLITEqCAUDATE CHRIVIznLATIN $!L#:BARzh%!L#:BA",
  "Rzf$!L#MIDDLE TILDEtP#STROKEnR#TAILzb%!A#STROKEnT#DIAGONAL STROKEzk$!H#DESCENDERzg%!H#DESCENDE",
  "Rze$!K#DESCENDERzg%!K#DESCENDERze$!Z#DESCENDERzg%!Z#DESCENDERze$!ALPHAfM#HOOKlTURNED AaLPHAzc%",
  "!V#]HOOKzf$!W#HOOKzb%!W#HOOKlV#CURLy$!HALF Hv%!HALF HgTAILLESS PHImE#NOTCHmTURNED R#TAILsO#LOW",
  " RING INSIDEzk!%$TURNED EzeSUBSCRIPT %!JzfMODIFIER !$VzaLATIN $!S#SWASH TAILrZ#SWASH TAILznCOP",
  "TIC $!ALFAt%!ALFAr$!VIDAt%!VIDAr$!GAMMAu%!GAMMAs$!DALDAu%!DALDAs$!EIEs%!EIEq$!SOUs%!SOUq$!ZATA",
  "t%!ZATAr$!HATEt%!HATEr$!THETHEv%!THETHEt$!IAUDAu%!IAUDAs$!KAPAt%!KAPAr$!LAULAu%!LAULAs$!MIr%!M",
  "Ip$!NIr%!NIp$!KSIs%!KSIq$!Oq%!Oo$!PIr%!PIp$!ROr%!ROp$!SIMAt%!SIMAr$!TAUs%!TAUq$!UAr%!UAp$!FIr%",
  "!FIp$!KHIs%!KHIq$!PSIs%!PSIq$!OOUs%!OOUq$!DIALECT-P ALEFze%!DIALECT-P ALEFzc$!OLD COPTIC AINze",
  "%!OLD COPTIC AINzc$!CRYPTOGRAMMIC EIEzh%!CRYPTOGRAMMIC EIEzf$!DIALECT-P KAPAze%!DIALECT-P KAPA",
  "zc$!DIALECT-P NIzc%!DIALECT-P NIza$!CRYPTOGRAMMIC NIzg%!CRYPTOGRAMMIC NIze$!OLD COPTIC OOUze%!",
  "OLD COPTIC OOUzc$!SAMPIu%!SAMPIs$!CROSSED SHEIzc%!CROSSED SHEIza$!OLD COPTIC SHEIzf%!OLD COPTI",
  "C SHEIzd$!OLD COPTIC ESHze%!OLD COPTIC ESHzc$!AKHMIMIC KHEIzd%!AKHMIMIC KHEIzb$!DIALECT-P HORI",
  "ze%!DIALECT-P HORIzc$!OLD COPTIC HORIzf%!OLD COPTIC HORIzd$!OLD COPTIC HAzd%!OLD COPTIC HAzb$!",
  "L-SHAPED HAzb%!L-SHAPED HAy$!OLD COPTIC HEIze%!OLD COPTIC HEIzc$!OLD COPTIC HATze%!OLD COPTIC ",
  "HATzc$!OLD COPTIC GANGIAzh%!OLD COPTIC GANGIAzf$!OLD COPTIC DJAze%!OLD COPTIC DJAzc$!OLD COPTI",
  "C SHIMAzg%!OLD COPTIC SHIMAze$!OLD NUBIAN SHIMAzg%!OLD NUBIAN SHIMAze$!OLD NUBIAN NGIze%!OLD N",
  "UBIAN NGIzc$!OLD NUBIAN NYIze%!OLD NUBIAN NYIzc$!OLD NUBIAN WAUze%!OLD NUBIAN WAUzbYMBOL KAIdM",
  "I ROfPI ROfSTAUROShTAU ROgKHI ROgSHIMA SIMAr$!CRYPTOGRAMMIC SHEIzi%!CRYPTOGRAMMIC SHEIzg$!CRYP",
  "TOGRAMMIC GANGIAzk%!CRYPTOGRAMMIC GANGIAziCOMBINING NI+iSPIRITUS ASPERfLENISxAPITAL !BOHAIRIC ",
  "KHEIzd%!BOHAIRIC KHEI@2cf9@zbOLD NUBIAN FULL STOPjDIRECT QUESTION?uINDIRECT QUESTION?wVERSE DI",
  "VIDERyFRACTION ONE HALFqULL STOPjMORPHOLOGICAL DIVIDERzdGEORGIAN %!ANcBANdGANdDONdENcVINdZENdT",
  "ANdINcKANdLASdMANdNARdONcPARdZHAReRAEdSANdTARdUNcPHAReKHAReGHANeQARdSHINeCHINdANdJILdCILcHAReX",
  "ANdJHANeHAEcEbIEdWEcHARcOE@2d27@dYN@2d2d@cAEN@2d30@zaTIFINAGH !YAaBaHcGaHHfBERBER ACADEMY YAJs",
  "YAJbDaHbDaHeEYcAFbKdTUAREG YAKkYAKHHdHdBERBER ACADEMY YAHsTUAREG YAHkYAHHcAbKHeTUAREG YAKHlYAQ",
  "dTUAREG YAQkYIbAZHeAHAGGAR YAZHmTUAREG YAZHlYALbMbNdTUAREG YAGNcNGlYAPcUbARaRcGHeTUAREG YAGHlA",
  "YER YAGHjYASaSbHcTaHcCHcTTcVbWbYbZdTAWELLEMET YAZoYAZZdEbO@2d6f@jMODIFIER !LABIALIZATION?zjSEP",
  "ARATOR?@2d7f@oCONSONANT JOINERzaETHIOPIC _LOAdMOAdROAdSOAcHOAeBOAdTOAdCOAdNOAcYOAeGLOTTAL OAkZ",
  "OAdDOAcDOAeJOAdTHOAeCHOAePHOAdOAdGGWAbIbEEb@2da0@eSSAbUbIbAAcEEbbO@2da8@dCCAbUbIbAAcEEbbO@2db0",
  "@dZZAbUbIbAAcEEbbO@2db8@dCCHAbUbIbAAcEEbbO@2dc0@eQYAbUbIbAAcEEbbO@2dc8@dKYAbUbIbAAcEEbbO@2dd0@",
  "dXYAbUbIbAAcEEbbO@2dd8@dGYAbUbIbAAcEEbbO@2de0@vCOMBINING CYRILLIC !BEcVEcGHEdDEcZHEcEcKAcELbMb",
  "NcObPEcERbScTEcHAcTSEdCHEdSHAbCHAfFITAeES-TEfAbIEcDJERVfMONOGRAPH UKmYATcUcIOTIFIED AkLITTLE Y",
  "USkBIG YUShIOTIFIED BIG YUSzr]ANGLE SUBSTITUTION?ERtDOTTED SUBSTITUTION?ERzn[SUBSTITUTION BRAC",
  "KETza]SUBSTITUTION BRACKETzb[DOTTED SUBSTITUTION BRACKETzh]DOTTED SUBSTITUTION BRACKETzhAISED ",
  "INTERPOLATION?ERuDOTTED INTERPOLATION?ERzjDOTTED TRANSPOSITION?ERzc[TRANSPOSITION BRACKETzb]TR",
  "ANSPOSITION BRACKETzbAISED SQUAREn[RAISED OMISSION BRACKETzd]RAISED OMISSION BRACKETzeEDITORIA",
  "L CORONISrPARAGRAPHOSlFORKED PARAGRAPHOSsREVERSED FORKED PARAGRAPHOSzcHYPODIASTOLEmDOTTED OBEL",
  "OSlWNWARDS ANCORAqUPWARDS ANCORAoDOTTED RIGHT-POINTING ANGLEzaUBLE OBLIQUE HYPHENvINVERTED INT",
  "ERROBANGuPALM BRANCHlHYPHEN#DIAERESISvTILDE#RING+v[LOW PARAPHRASE BRACKETzc]LOW PARAPHRASE BRA",
  "CKETzdTILDE#DOT+fBELOWu[|BAR#QUILLzd]|BAR#QUILLzeTOP [HALF BRACKETr]HALF BRACKETwBOTTOM [HALF ",
  "BRACKETr]HALF BRACKETza[SIDEWAYS U BRACKETx]SIDEWAYS U BRACKETy[:PARENTHESISx]:PARENTHESISyTWO",
  " DOTS OVER ONE DOT PUNCTUATIONziONE DOT OVER TWO DOTS PUNCTUATIONziSQUARED FOUR DOT PUNCTUATIO",
  "NzdFIVE DOT?nREVERSED QUESTION?w|TILDEoRING POINTkWORD SEPARATOR MIDDLE DOTzaTURNED COMMAmRAIS",
  "ED DOTdCOMMAmTURNED SEMICOLONqDAGGER#[GUARDk]GUARDxTURNED DAGGERmOP HALF SECTION.uWO-EM DASHkH",
  "REE-EM DASHnSTENOGRAPHIC FULL STOPw|SIX DOTSrWIGGLY |LINEuCAPITULUMj:HYPHENnREVERSED COMMAo:LO",
  "W-REVERSED-9 QUOTATION?zkASH#[UPTURNuOUBLE SUSPENSION?wINVERTED LOW KAVYKAa#KAVYKA+zmLOW KAVYK",
  "Aa#DOTt:STACKED COMMAsTTED SOLIDUSoTRIPLE DAGGERnMEDIEVAL COMMAoPARAGRAPHUS?pUNCTUS ELEVATUS?v",
  "CORNISH VERSE DIVIDERuROSS PATTY#]CROSSBARo[CROSSBARzfTIRONIAN. $ETyMEDIEVAL EXCLAMATION?qQUES",
  "TION?w[SQUARE BRACKET#STROKEzg]SQUARE BRACKET#STROKEzh[SQUARE BRACKET#:STROKEzn]SQUARE BRACKET",
  "#:STROKEzoTOP HALF [PARENTHESISq]PARENTHESISzbBOTTOM HALF [PARENTHESISq]PARENTHESISzeOBLIQUE H",
  "YPHEN@2e80@oCJK RADICAL REPEATgCLIFFfSECOND ONEdTWOcHREEmPERSONgBOXdTABLEfKNIFE ONEdTWOjDIVINA",
  "TIONkSEALdMALL ONEdTWOjLAME ONEdTWOcHREEfFOURjSNAKEfTHREADgSNOUT ONEdTWOjHEART ONEdTWOiANDeRAP",
  "@2e9b@dCHOKEfSUNdMOONeDEATHfMOTHERgCIVILIANiWATER ONEdTWOjFIREePAW ONEdTWOhSIMPLIFIED HALF TRE",
  "E TRUNKzbCOWdDOGdJADEeBOLT OF CLOTHnEYEdSPIRIT ONEdTWOkBAMBOOgSILKeC-SIMPLIFIED SILKrNET ONEdT",
  "WOcHREEfFOURiMESHeSHEEPfRAMdEWEdOLDdBRUSH ONEdTWOjMEATdORTARgGRASS ONEdTWOcHREElTIGERfCLOTHESh",
  "WEST ONEdTWOiC-SIMPLIFIED SEEqSIMPLIFIED HORNpHORNeC-SIMPLIFIED SPEECHfHELLsFOOTeC-SIMPLIFIED ",
  "CARTrSIMPLIFIED WALKpWALK ONEdTWOiCITYd-SIMPLIFIED GOLDrLONG ONEdTWOiC-SIMPLIFIED LONGeGATErMO",
  "UND ONEdTWOjRAINeBLUEeC-SIMPLIFIED TANNED LEATHERoLEAFeWINDeFLYqEAT ONEdTWOcHREEjC-SIMPLIFIED ",
  "EATqHEADeC-SIMPLIFIED HORSEsBONEeGHOSTfC-SIMPLIFIED FISHeBIRDeSALTrSIMPLIFIED WHEATfYELLOWrC-S",
  "IMPLIFIED FROGrJ-SIMPLIFIED EVENrC-SIMPLIFIED EVENrJ-SIMPLIFIED TOOTHsC-SIMPLIFIED TOOTHsJ-SIM",
  "PLIFIED DRAGONtC-SIMPLIFIED DRAGONtTURTLEgJ-SIMPLIFIED TURTLEtC-SIMPLIFIED TURTLE@2f00@zgKANGX",
  "I RADICAL ONEdLINEeDOTdSLASHeECONDgHOOKeTWOdLIDdMANdLEGSeENTEReIGHTfDOWN BOXiCOVERfICEdTABLEfO",
  "PEN BOXiKNIFEfPOWERfWRAPeSPOONf]OPEN BOXoHIDING ENCLOSUREqTENdDIVINATIONkSEALeCLIFFfPRIVATEhAG",
  "AINfMOUTHfENCLOSUREiARTHfSCHOLARhGOa SLOWLYjEVENINGhBIGdWOMANfCHILDfROOFeINCHeSMALLfLAMEeCORPS",
  "EgSPROUTgMOUNTAINiRIVERfWORKeONESELFhTURBANgDRYdSHORT THREADmDOTTED CLIFFmLONG STRIDElTWO HAND",
  "SjSHOOTfBOWdSNOUTfBRISTLEhSTEPeHEARTeALBERDhDOOReHANDeBRANCHgRAPdSCRIPTgDIPPERgAXEdSQUAREgNOTd",
  "SUNcAYdMOONeTREEeLACKeSTOPeDEATHfWEAPONgDO NOTgCOMPAREhFURdCLANeSTEAMfWATERfFIREeCLAWeFATHERg:",
  "XiHALF TREE TRUNKpSLICEfFANGeCOWdDOGdPROFOUNDiJADEeMELONfTILEeSWEETfLIFEeUSEdFIELDfBOLT OF CLO",
  "THnSICKNESSiDOTTED TENTlWHITEfSKINeDISHeEYEdSPEARf^fSTONEePIRITgTRACKfGRAINfCAVEeSTANDfBAMBOOg",
  "RICEeSILKeJARdNETdSHEEPfFEATHERhOLDdANDdPLOWeEARdBRUSHfMEATdINISTERiSELFeARRIVEgMORTARgTONGUEg",
  "OPPOSEgBOATeSTOPPINGiCOLORfGRASSfTIGERfINSECTgBLOODfWALK ENCLOSUREoCLOTHEShWESTeSEEdHORNeSPEEC",
  "HgVALLEYgBEANePIGdBADGERgSHELLfREDcUNdFOOTeBODYeCARTeBITTERgMORNINGhWALKeCITYeWINEeDISTINGUISH",
  "lVILLAGEhGOLDeLONGeGATEeMOUNDfSLAVEeHORT TAILED BIRDrRAINeBLUEeWRONGfFACEeLEATHERhTANNED LEATH",
  "ERoLEEKeSOUNDfLEAFeWINDeFLYdEATdHEADeFRAGRANTiHORSEfBONEeTALLeHAIReFIGHTfSACRIFICIAL WINEqCAUL",
  "DRONiGHOSTfFISHeBIRDeSALTeDEEReWHEATfHEMPeYELLOWgMILLETgBLACKfEMBROIDERYkFROGeTRIPODgDRUMeRATd",
  "NOSEeEVENeTOOTHfDRAGONgTURTLEgFLUTE@2ff0@uIDEOGRAPHIC DESCRIPTION CHARACTER [TO RIGHTnABOVE TO",
  ",o[TO MIDDLE&RIGHTyABOVE TO MIDDLE AND,zaFULL SURROUNDnSURROUND FROM+fBELOWfLEFTeUPPER LEFTeRI",
  "GHTlLOWER LEFTyOVERLAID"]

end ProposalCheck.Text.CharacterName
