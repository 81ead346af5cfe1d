/-!
# The table of character names

The names of the characters of Unicode 14.0, with their aliases, as the escape `\N{name}`
knows them: every name that the character database lists one by one. Names made from the code
point (Hangul syllables, unified ideographs, and the compatibility ideographs, Khitan and Nüshu
characters, whose names end in their code point) are left out; `CharNames` makes those.

The names are sorted, and each is written as how many leading characters it shares with the
one before, in two lowercase letters (base 26), followed by the rest of it. Names hold only
capital letters, digits, blanks and hyphens, so the lowercase letters mark where each begins.
-/

namespace SyntaxAdvisor.Text

/-- The character names, front-coded, in pieces. -/
def nameTablePieces : List String :=
  ["aaABACUSabC CURRENTacCORDIONaeUNT OFacKadNOWLEDGEacTIVATE ARABIC FORM SHAPINGajSYMMETRIC S",
   "WAPPINGacUTE ACCENTahNGLEabDDRESSED TO THE SUBJECTacHESIVE BANDAGEacI SHAKTIacLAM ALIF LEN",
   "GTHENERagCAPITAL LETTER ALIFavBAawHEavCHIavDAALIawHAavEavFAavGAawBEavHAavIavJIIMavKAFawHAa",
   "wPOavLAAMavMIIMavNHAawUNawYAavOavPEavQAAFavRAavSHAawINNYIIYHEavTUavUavVAavWAWavYAawHEavZAL",
   "ahONSONANT MODIFIERagDIGIT EIGHTamFIVEanOURamNINEamONEamSEVENanIXamTHREEanWOamZEROagGEMINA",
   "TE CONSONANT MODIFIERanION MARKagHAMZAagINITIAL EXCLAMATION MARKaoQUESTION MARKagNASALIZAT",
   "ION MARKahUKTAagSMALL LETTER ALIFatBAauHEatCHIatDAALIauHAatEatFAatGAauBEatHAatIatJIIMatKAF",
   "auHAauPOatLAAMatMIIMatNHAauUNauYAatOatPEatQAAFatRAatSHAauINNYIIYHEatTUatUatVAatWAWatYAauHE",
   "atZALagVOWEL LENGTHENERacMETOSadISSION TICKETSacULTabEGEAN CHECK MARKahDRY MEASURE FIRST S",
   "UBUNITahLIQUID MEASURE FIRST SUBUNITahMEASURE SECOND SUBUNITapTHIRD SUBUNITahNUMBER EIGHTa",
   "t HUNDREDauTHOUSANDatYau THOUSANDaoFIFTYat THOUSANDaqVEas HUNDREDatTHOUSANDapORTYat THOUSA",
   "NDaqURas HUNDREDatTHOUSANDaoNINEas HUNDREDatTHOUSANDasTYau THOUSANDaoONEar HUNDREDasTHOUSA",
   "NDaoSEVENat HUNDREDauTHOUSANDatTYav THOUSANDapIXar HUNDREDasTHOUSANDarTYat THOUSANDaoTENar",
   " THOUSANDapHIRTYau THOUSANDaqREEat HUNDREDauTHOUSANDapWENTYau THOUSANDaqOar HUNDREDasTHOUS",
   "ANDahWEIGHT BASE UNITaoFIRST SUBUNITapOURTH SUBUNITaoSECOND SUBUNITaoTHIRD SUBUNITaiORD SE",
   "PARATOR DOTawLINEacRIAL TRAMWAYabFGHANI SIGNabHOM CONSONANT SIGN MEDIAL LAbcIGATING RAbbRA",
   "afDIGIT EIGHTalFIVEamOURalNINEalONEalSEVENamIXalTHREEamWOalZEROafLETTER AanLTERNATE BAawGA",
   "awTAamBAanHAamCAanHAamDAanDAaoHAanHAamGAanHAamHAamJAanHAamKAanHAamLAanLAamMAamNAanGAanNAan",
   "YAamPAanHAamRAamSAamTAanHAanTAaoHAafNUMBER TENanWENTYafSIGN KILLERakRULAIakSECTIONalMALL S",
   "ECTIONagYMBOL VIafVOWEL SIGN AarAarIarMarWaqEaqIarIaqOaqUarUabIRPLANEai ARRIVINGajDEPARTUR",
   "EabKTIESELSKABabLARM CLOCKacCHEMICAL SYMBOL FOR AIRaxLEMBICayKALIbc-2ayUMaxMALGAMaxNTIMONY",
   " OREaxQUA REGIAbg-2bbVITAEbg-2baFORTISaxRSENICaxSHESaxURIPIGMENTawBATH OF MARYbeVAPOURSaxI",
   "SMUTH OREaxLACK SULFURaxORAXbb-2bc3axRICKawCADUCEUSayLXayPUT MORTUUMaxINNABARaxOPPER ANTIM",
   "ONIATEbdOREaxROCUS OF COPPERbm-2bgIRONayUCIBLEbe-2bf3bf4bf5awDAY-NIGHTaxISSOLVEbe-2azTILLa",
   "wEARTHawFIREawGOLDaxUMawHALF DRAMbbOUNCEaxORSE DUNGayURawIRON OREbe-2ba-COPPER OREawLEAD O",
   "REaxODESTONEawMARCASITEaxERCURY SUBLIMATEbn-2bo3axONTHawNIGHTayTREawOILawPHILOSOPHERS SULF",
   "URaxOT ASHESayWDERbcED BRICKaxRECIPITATEaxURIFYayTREFACTIONawQUICK LIMEazNTESSENCEawREALGA",
   "Rbd-2ayGULUSbd OF ANTIMONYbp-2bhIRONbd-2be3be4ayTORTaxOCK SALTbf-2awSAL-AMMONIACazTba OF A",
   "NTIMONYbeCOPPER ANTIMONIATEaxCEPTER OF JOVEaxILVERaxOAPaxPIRITaxTARRED TRIDENTayRATUM SUPE",
   "R STRATUMbr-2axUBLIMATE OF ANTIMONYbjCOPPERbjSALT OF ANTIMONYbrCOPPERbeIONayLFURawTARTARbc",
   "-2axIN OREazCTUREaxRIDENTaxUTTYawURINEawVERDIGRISaxINEGARbd OF ANTIMONYbd-2be3ayTRIOLbd-2a",
   "wWATERayXacEF SYMBOLadMBICadRTacIEN MONSTERacL AROUND-PROFILEaeEQUAL TOacMadOST EQUAL OR E",
   "QUAL TOanTOap WITH CIRCUMFLEX ACCENTacTERNATE ONE-WAY LEFT WAY TRAFFICaiIVE KEY SYMBOLabMA",
   "LGAMATION OR COPRODUCTacBULANCEacERICAN FOOTBALLacPERSANDadHORAabNATOLIAN HIEROGLYPH A001a",
   "y2ay3ay4ay5ay6ay7ay8ay9ax10azAay1ay2ay3ay4ay5ay6ay7ay8ay9ax20ay1ay2ay3ay4ay5ay6azAay7ay8ay",
   "9ax30ay1ay2ay3ay4ay5ay6ay7ay8ay9azAax40ay1azAay2ay3ay4ay5azAay6azAazBay7ay8ay9ax50ay1ay2ay",
   "3ay4ay5ay6ay7ay8ay9ax60ay1ay2ay3ay4ay5ay6azAazBazCay7ay8ay9ax70ay1ay2ay3ay4ay5ay6ay7ay8ay9",
   "ax80ay1ay2ay3ay4ay5ay6ay7ay8ay9ax90ay1ay2ay3ay4ay5ay6ay7azAay8azAay9aw100azAay1azAay2azAay",
   "3ay4azAazBazCay5azAazBay6ay7azAazBazCay8ay9ax10azAazBay1ay2ay3ay4ay5azAay6ay7ay8ay9ax20ay1",
   "ay2ay3ay4ay5azAay6ay7ay8ay9ax30ay1ay2ay3ay4ay5azAay6ay7ay8ay9ax40ay1ay2ay3ay4ay5ay6ay7ay8a",
   "y9ax50ay1ay2ay3ay4ay5ay6ay7ay8ay9ax60ay1ay2ay3ay4ay5ay6ay7ay8ay9ax70ay1ay2ay3ay4ay5ay6ay7a",
   "y8ay9ax80ay1ay2ay3ay4ay5ay6ay7ay8ay9ax90ay1ay2ay3ay4ay5ay6ay7ay8ay9aw200ay1ay2azAazBay3ay4",
   "ay5ay6ay7azAay8ay9azAax10ay1ay2ay3ay4ay5azAay6azAay7ay8ay9ax20ay1ay2ay3ay4ay5ay6ay7azAay8a",
   "y9ax30ay1ay2ay3ay4ay5ay6ay7ay8ay9ax40ay1ay2ay3ay4ay5ay6ay7ay8ay9ax50ay1ay2ay3ay4ay5ay6ay7a",
   "y8ay9ax60ay1ay2ay3ay4ay5ay6ay7azAay8ay9ax70ay1ay2ay3ay4ay5ay6ay7ay8ay9ax80ay1ay2ay3ay4ay5a",
   "y6ay7ay8ay9azAax90ay1ay2ay3ay4azAay5ay6ay7ay8ay9azAaw300ay1ay2ay3ay4ay5ay6ay7ay8ay9azAax10",
   "ay1ay2ay3ay4ay5ay6ay7ay8ay9ax20ay1ay2ay3ay4ay5ay6ay7ay8ay9azAax30ay1ay2AazBazCay3ay4ay5ay6",
   "azAazBazCay7ay8ay9ax40ay1ay2ay3ay4ay5ay6ay7ay8ay9ax50ay1ay2ay3ay4ay5ay6ay7ay8ay9azAax60ay1",
   "ay2ay3ay4azAay5ay6ay7ay8azAay9ax70ay1azAay2ay3ay4ay5ay6ay7ay8ay9ax80ay1azAay2ay3 RA OR RIa",
   "zAay4ay5ay6azAay7ay8ay9ax90ay1ay2ay3 EIGHTay4ay5ay6ay7ay8ay9aw400ay1ay2ay3ay4ay5ay6ay7ay8a",
   "y9ax10 BEGIN LOGOGRAM MARKazA END LOGOGRAM MARKay1ay2ay3ay4ay5ay6ay7ay8ay9ax20ay1ay2ay3ay4",
   "ay5ay6ay7ay8ay9ax30ay1ay2ay3ay4ay5ay6ay7ay8ay9ax40ay1ay2ay3ay4ay5ay6ay7ay8ay9ax50azAay1ay2",
   "ay3ay4ay5ay6ay7azAay8ay9ax60ay1ay2ay3ay4ay5ay6ay7ay8ay9ax70ay1ay2ay3ay4ay5ay6ay7ay8ay9ax80",
   "ay1ay2ay3ay4ay5ay6ay7ay8ay9ax90ay1ay2ay3ay4ay5ay6ay7aw501ay2ay3ay4ay5ay6ay7ay8ay9ax10ay1ay",
   "2ay3ay4ay5ay6ay7ay8ay9ax20ay1ay2ay3ay4ay5ay6ay7ay8ay9ax30afMICAL HEARTacCHORacD WITH DOTac",
   "GER SYMBOLadLEaf WITH S INSIDEalUNDERBARadRY FACEadSTROM SIGNadUISHED FACEacKHacTadENNA WI",
   "TH BARSadICLOCKWISE CLOSED CIRCLE ARROWapONTOUR INTEGRALaoDOWNWARDS AND UPWARDS OPEN CIRCL",
   "E ARROWSaoGAPPED CIRCLE ARROWaoINTEGRATIONaoOPEN CIRCLE ARROWaoTOP SEMICIRCLE ARROWapRIANG",
   "LE-HEADED BOTTOM U-SHAPED ARROWbeLEFT U-SHAPED ARROWbeOPEN CIRCLE ARROWbeRIGHT U-SHAPED AR",
   "ROWbeTOP U-SHAPED ARROWabPCacL FUNCTIONAL SYMBOL ALPHAbb UNDERBARawBACKSLASH BARawCIRCLE B",
   "ACKSLASHbdDIAERESISbdJOTbdSTARbfILEbdUNDERBARaxOMMA BARawDEL DIAERESISbaSTILEbaTILDEazTA S",
   "TILEbcUNDERBARaxIAMOND UNDERBARaxOWN CARET TILDEbbSHOE STILEbbTACK JOTbgUNDERBARbaWARDS VA",
   "NEawEPSILON UNDERBARawGREATER-THAN DIAERESISawI-BEAMaxOTAba UNDERBARawJOT DIAERESISbaUNDER",
   "BARawLEFT SHOE STILEbaWARDS VANEawOMEGAbb UNDERBARawQUADba BACKSLASHbbCIRCLEbcOLONbbDELbeT",
   "AbcIAMONDbdVIDEbcOWN CARETbfWARDS ARROWbbEQUALbbGREATER-THANbbJOTbbLEFTWARDS ARROWbdSS-THA",
   "NbbNOT EQUALbbQUESTIONbbRIGHTWARDS ARROWbbSLASHbbUP CARETbdWARDS ARROWayOTE QUADbcUNDERBAR",
   "awRHOaxIGHTWARDS VANEawSEMICOLON UNDERBARaxLASH BARaxQUISH QUADaxTAR DIAERESISayILE TILDEa",
   "wTILDE DIAERESISawUP CARET TILDEazSHOE JOTazTACK DIAERESISbeJOTbeOVERBARayWARDS VANEawZILD",
   "EacOLLONadSTROPHEacPLICATION PROGRAM COMMANDadROACHES THE LIMITafXIMATELY BUT NOT ACTUALLY",
   " EQUAL TOaoEQUAL OR EQUAL TOauTOaw OR THE IMAGE OFabQUARIUSabRABIC BASELINE ROUND DOTahCOM",
   "MAaiURLY DAMMAasTANanFATHAasTANanKASRAasTANahDAMMAam ISOLATED FORManMEDIAL FORManWITH DOTa",
   "mTANap ISOLATED FORMajTE SEPARATORaiECIMAL SEPARATORaiISPUTED END OF AYAHaiOUBLE RIGHT ARR",
   "OWHEAD ABOVEbj WITH DOTanD MADDAahEMPTY CENTRE HIGH STOPauLOW STOPaiND OF AYAHaoTEXT MARKa",
   "hFATHAam ISOLATED FORManMEDIAL FORManWITH DOT ABOVEasRINGasTWO DOTSamTANap ISOLATED FORMai",
   "IVE POINTED STARaiOOTNOTE MARKERaiULL STOPahHALF MADDA OVER MADDAajMZA ABOVEanBELOWahINVER",
   "TED DAMMAahKASRAam ISOLATED FORManMEDIAL FORManWITH DOT BELOWamTANap ISOLATED FORMahLARGE ",
   "CIRCLE BELOWanROUND DOT ABOVEaxBELOWaxINSIDE CIRCLE BELOWaiEFT ARROWHEAD ABOVEawBELOWajTTE",
   "R AEapFRICAN FEHawNOONawQAFaz WITH THREE DOTS ABOVEapINar FINAL FORMasINITIAL FORMatSOLATE",
   "D FORMasMEDIAL FORMasWITH THREE DOTS ABOVEbiBELOWbiPOINTING DOWNWARDS ABOVEayWO DOTS ABOVE",
   "bgVERTICALLY ABOVEapLEFas FINAL FORMatISOLATED FORMatMAKSURAba FINAL FORMbbISOLATED FORMat",
   "WASLAay FINAL FORMazISOLATED FORMauITH ATTACHED BOTTOM RIGHT KASRAbz AND DOT ABOVEceLEFT R",
   "INGbhFATHAbhKASRAbhLEFT HAMZAbmROUND DOTbhRIGHT HAMZAbnROUND DOTbiOUND DOT ABOVEbrBELOWbhT",
   "OP RIGHT FATHAbw AND DOT ABOVEcbLEFT RINGayDOT ABOVEayEXTENDED ARABIC-INDIC DIGIT THREE AB",
   "OVEcbWO ABOVEayHAMZA ABOVEbj FINAL FORMbkISOLATED FORMbeBELOWbj FINAL FORMbkISOLATED FORMa",
   "yLEFT MIDDLE STROKEayMADDA ABOVEbj FINAL FORMbkISOLATED FORMayRIGHT MIDDLE STROKEbr AND DO",
   "T ABOVEbwLEFT RINGayWAVY HAMZA ABOVEbjBELOWaoBEEHas FINAL FORMatINITIAL FORMauSOLATED FORM",
   "atMEDIAL FORMaqHar FINAL FORMasINITIAL FORMatSOLATED FORMasMEDIAL FORMasWITH DOT BELOW AND",
   " THREE DOTS ABOVEaxHAMZA ABOVEaxINVERTED SMALL V BELOWaxSMALL MEEM ABOVEbdVbe BELOWaxTHREE",
   " DOTS HORIZONTALLY BELOWbiPOINTING UPWARDS BELOWce AND TWO DOTS ABOVEayWO DOTS BELOW AND D",
   "OT ABOVEarEHat FINAL FORMauINITIAL FORMavSOLATED FORMauMEDIAL FORMaoDADar FINAL FORMasINIT",
   "IAL FORMatSOLATED FORMasMEDIAL FORMasWITH DOT BELOWaqHALat FINAL FORMauISOLATED FORMaqLar ",
   "FINAL FORMasISOLATED FORMasWITH DOT BELOWbg AND SMALL TAHaxFOUR DOTS ABOVEaxINVERTED SMALL",
   " V BELOWbgVaxRINGaxTHREE DOTS ABOVE DOWNWARDSbiBELOWayWO DOTS VERTICALLY BELOW AND SMALL T",
   "AHapDAHALau FINAL FORMavISOLATED FORMarLas FINAL FORMatISOLATED FORMapOTLESS BEHawFEHawQAF",
   "apULar FINAL FORMasISOLATED FORMapYEHas FINAL FORMatINITIAL FORMauSOLATED FORMatMEDIAL FOR",
   "MaoEap FINAL FORMaqINITIAL FORMarSOLATED FORMaqMEDIAL FORMaoFARSI YEHax FINAL FORMayINITIA",
   "L FORMazSOLATED FORMayMEDIAL FORMayWITH EXTENDED ARABIC-INDIC DIGIT FOUR BELOWcfTHREE ABOV",
   "EcgWO ABOVEbdINVERTED VbdTHREE DOTS ABOVEbeWO DOTS ABOVEapEHar FINAL FORMasINITIAL FORMatS",
   "OLATED FORMasMEDIAL FORMasWITH DOT BELOWbg AND THREE DOTS ABOVEbbMOVED BELOWaxTHREE DOTS B",
   "ELOWbiPOINTING UPWARDS BELOWayWO DOTS BELOWaoGAFar FINAL FORMasINITIAL FORMatSOLATED FORMa",
   "sMEDIAL FORMasWITH INVERTED STROKEaxRINGaxTHREE DOTS ABOVEayWO DOTS BELOWapHAINat FINAL FO",
   "RMauINITIAL FORMavSOLATED FORMauMEDIAL FORMauWITH DOT BELOWazTHREE DOTS ABOVEapRAFapUEHas ",
   "FINAL FORMatINITIAL FORMauSOLATED FORMatMEDIAL FORMaoHAHar FINAL FORMasINITIAL FORMatSOLAT",
   "ED FORMasMEDIAL FORMasWITH EXTENDED ARABIC-INDIC DIGIT FOUR BELOWaxHAMZA ABOVEaxINVERTED S",
   "MALL V BELOWaxSMALL ARABIC LETTER TAH ABOVEbwND TWO DOTSbvBELOWaxTHREE DOTS ABOVEbiPOINTIN",
   "G UPWARDS BELOWayWO DOTS ABOVEbgVERTICAL ABOVEaqMZAat ISOLATED FORMapEHar DOACHASHMEEbd FI",
   "NAL FORMbeINITIAL FORMbfSOLATED FORMbeMEDIAL FORMasFINAL FORMasGOALaw FINAL FORMaxINITIAL ",
   "FORMaySOLATED FORMaxMEDIAL FORMaxWITH HAMZA ABOVEasINITIAL FORMatSOLATED FORMasMEDIAL FORM",
   "asWITH INVERTED VaxYEH ABOVEbg FINAL FORMbhISOLATED FORMapIGH HAMZAay ALEFazWAWazYEHaoJEEM",
   "as FINAL FORMatINITIAL FORMauSOLATED FORMatMEDIAL FORMatWITH THREE DOTS ABOVEbjBELOWazWO D",
   "OTS ABOVEaqHar FINAL FORMasISOLATED FORMaoKAFar FINAL FORMasINITIAL FORMatSOLATED FORMasME",
   "DIAL FORMasWITH DOT ABOVEbbBELOWaxRINGaxTHREE DOTS BELOWayWO DOTS ABOVEaqSHMIRI YEHapEHEHa",
   "t FINAL FORMauINITIAL FORMavSOLATED FORMauMEDIAL FORMauWITH DOT ABOVEazSMALL VazTHREE DOTS",
   " ABOVEbkBELOWbkPOINTING UPWARDS BELOWbaWO DOTS ABOVEbiVERTICALLY BELOWapHAHas FINAL FORMat",
   "INITIAL FORMauSOLATED FORMatMEDIAL FORMapIRGHIZ OEay FINAL FORMazISOLATED FORMawYUay FINAL",
   " FORMazISOLATED FORMaoLAMar FINAL FORMasINITIAL FORMatSOLATED FORMasMEDIAL FORMasWITH BARa",
   "xDOT ABOVEazUBLE BARaxSMALL ARABIC LETTER TAH ABOVEbdVaxTHREE DOTS ABOVEbiBELOWapOW ALEFao",
   "MARKapEEMas FINAL FORMatINITIAL FORMauSOLATED FORMatMEDIAL FORMatWITH DOT ABOVEbcBELOWayTH",
   "REE DOTS ABOVEaoNGaq FINAL FORMarINITIAL FORMasSOLATED FORMarMEDIAL FORMaqOEHat FINAL FORM",
   "auINITIAL FORMavSOLATED FORMauMEDIAL FORMapOONas FINAL FORMatGHUNNAaz FINAL FORMbaISOLATED",
   " FORMatINITIAL FORMauSOLATED FORMatMEDIAL FORMatWITH DOT BELOWayINVERTED SMALL VayRINGaySM",
   "ALL TAHbeVayTHREE DOTS ABOVEazWO DOTS BELOWapYEHas FINAL FORMatINITIAL FORMauSOLATED FORMa",
   "tMEDIAL FORMaoOEaq FINAL FORMarISOLATED FORMaoPEHar FINAL FORMasINITIAL FORMatSOLATED FORM",
   "asMEDIAL FORMasWITH SMALL MEEM ABOVEbdVarEHat FINAL FORMauINITIAL FORMavSOLATED FORMauMEDI",
   "AL FORMaoQAFar FINAL FORMasINITIAL FORMatSOLATED FORMasMEDIAL FORMasWITH DOT ABOVEbbBELOWb",
   "g AND NO DOTS ABOVEaxTHREE DOTS ABOVEaoREHar FINAL FORMasISOLATED FORMasWITH DOT BELOWbg A",
   "ND DOT ABOVEaxFOUR DOTS ABOVEaxHAMZA ABOVEaxINVERTED VaxLOOPaxRINGaxSMALL ARABIC LETTER TA",
   "H AND TWO DOTSbdNOON ABOVEbdVbe BELOWayTROKEaxTWO DOTS ABOVEbgVERTICALLY ABOVEapNOONat FIN",
   "AL FORMauINITIAL FORMavSOLATED FORMauMEDIAL FORMapOHINGYA YEHapREHas FINAL FORMatISOLATED ",
   "FORMaoSADar FINAL FORMasINITIAL FORMatSOLATED FORMasMEDIAL FORMasWITH THREE DOTS ABOVEbiBE",
   "LOWayWO DOTS BELOWapEENas FINAL FORMatINITIAL FORMauSOLATED FORMatMEDIAL FORMatWITH DOT BE",
   "LOW AND DOT ABOVEayEXTENDED ARABIC-INDIC DIGIT FOUR ABOVEayFOUR DOTS ABOVEayINVERTED VaySM",
   "ALL ARABIC LETTER TAH AND TWO DOTSayTHREE DOTS BELOWbo AND THREE DOTS ABOVEazWO DOTS VERTI",
   "CALLY ABOVEapHEENat FINAL FORMauINITIAL FORMavSOLATED FORMauMEDIAL FORMauWITH DOT BELOWapT",
   "RAIGHT WAWapUPERSCRIPT ALEFapWASH KAFaoTAHar FINAL FORMasINITIAL FORMatSOLATED FORMasMEDIA",
   "L FORMasWITH DOT BELOWaxTHREE DOTS ABOVEbiBELOWayWO DOTS ABOVEapCHEHat FINAL FORMauINITIAL",
   " FORMavSOLATED FORMauMEDIAL FORMauWITH DOT ABOVEazSMALL VatEHav FINAL FORMawINITIAL FORMax",
   "SOLATED FORMawMEDIAL FORMapEHar FINAL FORMasINITIAL FORMatSOLATED FORMasMARBUTAaz FINAL FO",
   "RMbaGOALbaISOLATED FORMatEDIAL FORMasWITH RINGaxSMALL TEH ABOVEbdVaxTHREE DOTS ABOVE DOWNW",
   "ARDSarEHat FINAL FORMauINITIAL FORMavSOLATED FORMauMEDIAL FORMapHALas FINAL FORMatISOLATED",
   " FORMaqEHas FINAL FORMatINITIAL FORMauSOLATED FORMatMEDIAL FORMaqIN YEHapTEHas FINAL FORMa",
   "tINITIAL FORMauSOLATED FORMatMEDIAL FORMatWITH SMALL VasEHau FINAL FORMavINITIAL FORMawSOL",
   "ATED FORMavMEDIAL FORMaoUap FINAL FORMaqISOLATED FORMaqWITH HAMZA ABOVEbg ISOLATED FORMapI",
   "GHUR KAZAKH KIRGHIZ ALEF MAKSURA INITIAL FORMbxMEDIAL FORMaoVEaq FINAL FORMarISOLATED FORM",
   "aqHar FINAL FORMasINITIAL FORMatSOLATED FORMasMEDIAL FORMaoWAWar FINAL FORMasISOLATED FORM",
   "asWITH DOT ABOVEbbWITHINaxEXTENDED ARABIC-INDIC DIGIT THREE ABOVEcaWO ABOVEaxHAMZA ABOVEbi",
   " FINAL FORMbjISOLATED FORMaxRINGaxTWO DOTS ABOVEaoYEHar BARREEay FINAL FORMazISOLATED FORM",
   "azWITH EXTENDED ARABIC-INDIC DIGIT THREE ABOVEchWO ABOVEbeHAMZA ABOVEbp FINAL FORMbqISOLAT",
   "ED FORMasFINAL FORMasINITIAL FORMatSOLATED FORMasMEDIAL FORMasWITH HAMZA ABOVEbi FINAL FOR",
   "MbjINITIAL FORMbkSOLATED FORMbjMEDIAL FORMaxSMALL VaxTAILayHREE DOTS BELOWayWO DOTS BELOW ",
   "AND DOT ABOVEbqHAMZA ABOVEbqSMALL NOON ABOVEapUaq FINAL FORMarISOLATED FORMaoZAHar FINAL F",
   "ORMasINITIAL FORMatSOLATED FORMasMEDIAL FORMaqINas FINAL FORMatISOLATED FORMatWITH INVERTE",
   "D V ABOVEaiIGATURE AIN WITH ALEF MAKSURA FINAL FORMbmISOLATED FORMazJEEM INITIAL FORMbfSOL",
   "ATED FORMbeWITH MEEM FINAL FORMboINITIAL FORMazMEEM INITIAL FORMbfSOLATED FORMbeWITH ALEF ",
   "MAKSURA FINAL FORMbjMEEM FINAL FORMboINITIAL FORMbjYEH FINAL FORMazYEH FINAL FORMbdISOLATE",
   "D FORMarKBAR ISOLATED FORMarLAYHAA AS-SALAAMavE ISOLATED FORMavI AS-SALAAMbfTU WAS-SALAAMa",
   "wM AS-SALAAMaxAA AS-SALAAMasEF MAKSURA WITH SUPERSCRIPT ALEF FINAL FORMbzISOLATED FORMavWI",
   "TH FATHATAN FINAL FORMbjISOLATED FORMasLAH ISOLATED FORMarZZA WA JALLaqBEH WITH ALEF MAKSU",
   "RA FINAL FORMbmISOLATED FORMazHAH INITIAL FORMbeSOLATED FORMbdWITH YEH FINAL FORMbaEH INIT",
   "IAL FORMbdMEDIAL FORMazJEEM INITIAL FORMbfSOLATED FORMazKHAH INITIAL FORMbfSOLATED FORMbeW",
   "ITH YEH FINAL FORMazMEEM FINAL FORMbeINITIAL FORMbfSOLATED FORMbeMEDIAL FORMazNOON FINAL F",
   "ORMazREH FINAL FORMazYEH FINAL FORMbdISOLATED FORMazZAIN FINAL FORMarISMILLAH AR-RAHMAN AR",
   "-RAHEEMaqDAD WITH ALEF MAKSURA FINAL FORMbmISOLATED FORMazHAH INITIAL FORMbeSOLATED FORMbd",
   "WITH ALEF MAKSURA FINAL FORMbiYEH FINAL FORMazJEEM INITIAL FORMbfSOLATED FORMazKHAH INITIA",
   "L FORMbfSOLATED FORMbeWITH MEEM FINAL FORMboINITIAL FORMazMEEM INITIAL FORMbfSOLATED FORMa",
   "zREH FINAL FORMbdISOLATED FORMazYEH FINAL FORMbdISOLATED FORMaqFEH WITH ALEF MAKSURA FINAL",
   " FORMbmISOLATED FORMazHAH INITIAL FORMbeSOLATED FORMazJEEM INITIAL FORMbfSOLATED FORMazKHA",
   "H INITIAL FORMbfSOLATED FORMbeWITH MEEM FINAL FORMboINITIAL FORMazMEEM INITIAL FORMbfSOLAT",
   "ED FORMbeWITH YEH FINAL FORMazYEH FINAL FORMbdISOLATED FORMaqGHAIN WITH ALEF MAKSURA FINAL",
   " FORMboISOLATED FORMbbJEEM INITIAL FORMbhSOLATED FORMbbMEEM INITIAL FORMbhSOLATED FORMbgWI",
   "TH ALEF MAKSURA FINAL FORMblMEEM FINAL FORMblYEH FINAL FORMbbYEH FINAL FORMbfISOLATED FORM",
   "aqHAH WITH ALEF MAKSURA FINAL FORMbmISOLATED FORMazJEEM INITIAL FORMbfSOLATED FORMbeWITH Y",
   "EH FINAL FORMazMEEM INITIAL FORMbfSOLATED FORMbeWITH ALEF MAKSURA FINAL FORMbjYEH FINAL FO",
   "RMazYEH FINAL FORMbdISOLATED FORMarEH WITH ALEF MAKSURA ISOLATED FORMazJEEM INITIAL FORMbf",
   "SOLATED FORMazMEEM INITIAL FORMbfSOLATED FORMbeWITH JEEM INITIAL FORMbjMEEM INITIAL FORMaz",
   "SUPERSCRIPT ALEF INITIAL FORMazYEH ISOLATED FORMaqJALLAJALALOUHOUarEEM WITH ALEF MAKSURA F",
   "INAL FORMbnISOLATED FORMbaHAH INITIAL FORMbfSOLATED FORMbeWITH ALEF MAKSURA FINAL FORMbjYE",
   "H FINAL FORMbaMEEM INITIAL FORMbgSOLATED FORMbfWITH ALEF MAKSURA FINAL FORMbkHAH FINAL FOR",
   "MboINITIAL FORMbkYEH FINAL FORMbaYEH FINAL FORMbeISOLATED FORMaqKAF WITH ALEF FINAL FORMbe",
   "ISOLATED FORMbeMAKSURA FINAL FORMbmISOLATED FORMazHAH INITIAL FORMbeSOLATED FORMazJEEM INI",
   "TIAL FORMbfSOLATED FORMazKHAH INITIAL FORMbfSOLATED FORMazLAM FINAL FORMbdINITIAL FORMbeSO",
   "LATED FORMbdMEDIAL FORMazMEEM FINAL FORMbeINITIAL FORMbfSOLATED FORMbeMEDIAL FORMbeWITH ME",
   "EM FINAL FORMboINITIAL FORMbjYEH FINAL FORMazYEH FINAL FORMbdISOLATED FORMarHAH WITH ALEF ",
   "MAKSURA FINAL FORMbnISOLATED FORMbaHAH ISOLATED FORMbaJEEM INITIAL FORMbgSOLATED FORMbaMEE",
   "M INITIAL FORMbgSOLATED FORMbaYEH FINAL FORMbeISOLATED FORMaqLAM WITH ALEF FINAL FORMbeISO",
   "LATED FORMbeMAKSURA FINAL FORMbmISOLATED FORMbeWITH HAMZA ABOVE FINAL FORMbvISOLATED FORMb",
   "pBELOW FINAL FORMbvISOLATED FORMbjMADDA ABOVE FINAL FORMbvISOLATED FORMazHAH INITIAL FORMb",
   "eSOLATED FORMbdWITH ALEF MAKSURA FINAL FORMbiMEEM FINAL FORMbnINITIAL FORMbiYEH FINAL FORM",
   "baEH INITIAL FORMazJEEM INITIAL FORMbfSOLATED FORMbeWITH JEEM FINAL FORMboINITIAL FORMbjME",
   "EM FINAL FORMboINITIAL FORMbjYEH FINAL FORMazKHAH INITIAL FORMbfSOLATED FORMbeWITH MEEM FI",
   "NAL FORMboINITIAL FORMazMEEM FINAL FORMbeINITIAL FORMbfSOLATED FORMbeMEDIAL FORMbeWITH HAH",
   " FINAL FORMbnINITIAL FORMbjYEH FINAL FORMazYEH FINAL FORMbdISOLATED FORMaqMEEM WITH ALEF F",
   "INAL FORMbfMAKSURA ISOLATED FORMbaHAH INITIAL FORMbfSOLATED FORMbeWITH JEEM INITIAL FORMbj",
   "MEEM INITIAL FORMbjYEH FINAL FORMbaJEEM INITIAL FORMbgSOLATED FORMbfWITH HAH INITIAL FORMb",
   "kKHAH INITIAL FORMbkMEEM INITIAL FORMbkYEH FINAL FORMbaKHAH INITIAL FORMbgSOLATED FORMbfWI",
   "TH JEEM INITIAL FORMbkMEEM INITIAL FORMbkYEH FINAL FORMbaMEEM FINAL FORMbfINITIAL FORMbgSO",
   "LATED FORMbfWITH YEH FINAL FORMbaYEH ISOLATED FORMarOHAMMAD ISOLATED FORMaqNOON WITH ALEF ",
   "MAKSURA FINAL FORMbnISOLATED FORMbaHAH INITIAL FORMbfSOLATED FORMbeWITH ALEF MAKSURA FINAL",
   " FORMbjMEEM INITIAL FORMbjYEH FINAL FORMbbEH INITIAL FORMbeMEDIAL FORMbaJEEM INITIAL FORMb",
   "gSOLATED FORMbfWITH ALEF MAKSURA FINAL FORMbkHAH FINAL FORMboINITIAL FORMbkMEEM FINAL FORM",
   "bpINITIAL FORMbkYEH FINAL FORMbaKHAH INITIAL FORMbgSOLATED FORMbaMEEM FINAL FORMbfINITIAL ",
   "FORMbgSOLATED FORMbfMEDIAL FORMbfWITH ALEF MAKSURA FINAL FORMbkYEH FINAL FORMbaNOON FINAL ",
   "FORMbaREH FINAL FORMbaYEH FINAL FORMbeISOLATED FORMbaZAIN FINAL FORMaqQAF WITH ALEF MAKSUR",
   "A FINAL FORMbmISOLATED FORMazHAH INITIAL FORMbeSOLATED FORMazMEEM INITIAL FORMbfSOLATED FO",
   "RMbeWITH HAH FINAL FORMbnINITIAL FORMbjMEEM FINAL FORMbjYEH FINAL FORMazYEH FINAL FORMbdIS",
   "OLATED FORMasLA USED AS KORANIC STOP SIGN ISOLATED FORMarUDDISA SIRRAHaqRADI ALLAAHU ANHbg",
   "AAbgUMbiAAbhNNAasHIMAHU ALLAAHayM ALLAAHasSOUL ISOLATED FORMarEH WITH SUPERSCRIPT ALEF ISO",
   "LATED FORMaqSAD WITH ALEF MAKSURA FINAL FORMbmISOLATED FORMazHAH INITIAL FORMbeSOLATED FOR",
   "MbdWITH HAH FINAL FORMbmINITIAL FORMbiYEH FINAL FORMazKHAH INITIAL FORMazMEEM INITIAL FORM",
   "bfSOLATED FORMbeWITH MEEM FINAL FORMboINITIAL FORMazREH FINAL FORMbdISOLATED FORMazYEH FIN",
   "AL FORMbdISOLATED FORMasLAAMUHU ALAYNAAauM ISOLATED FORMatLA ISOLATED FORMawUSED AS KORANI",
   "C STOP SIGN ISOLATED FORMavLLAAHU ALAYHI WA-AALIHayHOU ALAYHE WASALLAMazU ALAYHI WAAALIHEE",
   " WA-SALLAMarEEN WITH ALEF MAKSURA FINAL FORMbnISOLATED FORMbaHAH INITIAL FORMbfSOLATED FOR",
   "MbeMEDIAL FORMbeWITH JEEM INITIAL FORMbbEH INITIAL FORMbeMEDIAL FORMbaJEEM INITIAL FORMbgS",
   "OLATED FORMbfMEDIAL FORMbfWITH ALEF MAKSURA FINAL FORMbkHAH INITIAL FORMbaKHAH INITIAL FOR",
   "MbgSOLATED FORMbfMEDIAL FORMbfWITH ALEF MAKSURA FINAL FORMbkYEH FINAL FORMbaMEEM INITIAL F",
   "ORMbgSOLATED FORMbfMEDIAL FORMbfWITH HAH FINAL FORMboINITIAL FORMbkJEEM INITIAL FORMbkMEEM",
   " FINAL FORMbpINITIAL FORMbaREH FINAL FORMbeISOLATED FORMbaYEH FINAL FORMbeISOLATED FORMarH",
   "ADDA WITH DAMMA ISOLATED FORMbiMEDIAL FORMbhTAN ISOLATED FORMbcFATHA ISOLATED FORMbiMEDIAL",
   " FORMbcKASRA ISOLATED FORMbiMEDIAL FORMbhTAN ISOLATED FORMbcSUPERSCRIPT ALEF ISOLATED FORM",
   "asEEN WITH ALEF MAKSURA FINAL FORMboISOLATED FORMbbHAH FINAL FORMbfINITIAL FORMbgSOLATED F",
   "ORMbfMEDIAL FORMbfWITH MEEM FINAL FORMbpINITIAL FORMbkYEH FINAL FORMbcEH INITIAL FORMbfMED",
   "IAL FORMbbJEEM FINAL FORMbgINITIAL FORMbhSOLATED FORMbgMEDIAL FORMbgWITH YEH FINAL FORMbbK",
   "HAH FINAL FORMbgINITIAL FORMbhSOLATED FORMbgMEDIAL FORMbbMEEM FINAL FORMbgINITIAL FORMbhSO",
   "LATED FORMbgMEDIAL FORMbgWITH KHAH FINAL FORMbqINITIAL FORMblMEEM FINAL FORMbqINITIAL FORM",
   "bbREH FINAL FORMbfISOLATED FORMbbYEH FINAL FORMbfISOLATED FORMarUBHAANAHU WA TAAALAAaqTABA",
   "ARAKA WA-TAAALAAasH WITH ALEF MAKSURA FINAL FORMbmISOLATED FORMazHAH INITIAL FORMbeSOLATED",
   " FORMazMEEM INITIAL FORMbfSOLATED FORMbeMEDIAL FORMbeWITH HAH FINAL FORMbnINITIAL FORMbjME",
   "EM INITIAL FORMbjYEH FINAL FORMazYEH FINAL FORMbdISOLATED FORMarEH WITH ALEF MAKSURA FINAL",
   " FORMbmISOLATED FORMazHAH INITIAL FORMbeSOLATED FORMbdWITH JEEM FINAL FORMbnINITIAL FORMbi",
   "MEEM INITIAL FORMbaEH INITIAL FORMbdMEDIAL FORMazJEEM INITIAL FORMbfSOLATED FORMbeWITH ALE",
   "F MAKSURA FINAL FORMbjMEEM INITIAL FORMbjYEH FINAL FORMazKHAH INITIAL FORMbfSOLATED FORMbe",
   "WITH ALEF MAKSURA FINAL FORMbjMEEM INITIAL FORMbjYEH FINAL FORMazMEEM FINAL FORMbeINITIAL ",
   "FORMbfSOLATED FORMbeMEDIAL FORMbeWITH ALEF MAKSURA FINAL FORMbjHAH INITIAL FORMbjJEEM INIT",
   "IAL FORMbjKHAH INITIAL FORMbjYEH FINAL FORMazNOON FINAL FORMazREH FINAL FORMazYEH FINAL FO",
   "RMbdISOLATED FORMazZAIN FINAL FORMarHAL WITH SUPERSCRIPT ALEF ISOLATED FORMasEH WITH ALEF ",
   "MAKSURA FINAL FORMbnISOLATED FORMbaHEH MEDIAL FORMbaJEEM ISOLATED FORMbaMEEM FINAL FORMbfI",
   "NITIAL FORMbgSOLATED FORMbfMEDIAL FORMbaNOON FINAL FORMbaREH FINAL FORMbaYEH FINAL FORMbeI",
   "SOLATED FORMbaZAIN FINAL FORMaqUIGHUR KIRGHIZ YEH WITH HAMZA ABOVE WITH ALEF MAKSURA FINAL",
   " FORMcsINITIAL FORMctSOLATED FORMaqWASALLAM ISOLATED FORMaqYEH WITH ALEF MAKSURA FINAL FOR",
   "MbmISOLATED FORMazHAH INITIAL FORMbeSOLATED FORMbdWITH YEH FINAL FORMbbMZA ABOVE WITH AE F",
   "INAL FORMbtISOLATED FORMbrLEF FINAL FORMbvISOLATED FORMbvMAKSURA FINAL FORMcdISOLATED FORM",
   "bqE FINAL FORMbsINITIAL FORMbtSOLATED FORMbqHAH INITIAL FORMbvSOLATED FORMbrEH INITIAL FOR",
   "MbuMEDIAL FORMbqJEEM INITIAL FORMbwSOLATED FORMbqKHAH INITIAL FORMbqMEEM FINAL FORMbvINITI",
   "AL FORMbwSOLATED FORMbvMEDIAL FORMbqNOON FINAL FORMbqOE FINAL FORMbtISOLATED FORMbqREH FIN",
   "AL FORMbqU FINAL FORMbsISOLATED FORMbqWAW FINAL FORMbuISOLATED FORMbqYEH FINAL FORMbuISOLA",
   "TED FORMbrU FINAL FORMbtISOLATED FORMbqZAIN FINAL FORMbaEH INITIAL FORMbdMEDIAL FORMazJEEM",
   " INITIAL FORMbfSOLATED FORMbeWITH YEH FINAL FORMazKHAH INITIAL FORMbfSOLATED FORMazMEEM FI",
   "NAL FORMbeINITIAL FORMbfSOLATED FORMbeMEDIAL FORMbeWITH MEEM FINAL FORMboINITIAL FORMbjYEH",
   " FINAL FORMazNOON FINAL FORMazREH FINAL FORMazYEH FINAL FORMbdISOLATED FORMazZAIN FINAL FO",
   "RMaqZAH WITH MEEM INITIAL FORMbfSOLATED FORMbeMEDIAL FORMahMADDA WAAJIBamH ABOVEajRK NOON ",
   "GHUNNAamSIDEWAYS NOON GHUNNAajTHEMATICAL AINavLEFauBEHauDADawLavOTLESS BEHbcFEHbcNOONbcQAF",
   "awUBLE-STRUCK AINbiBEHbiDADbkLbiFEHbiGHAINbiHAHbiJEEMbiKHAHbiLAMbiMEEMbiNOONbiQAFbiREHbiSA",
   "DbjEENbjHEENbiTAHbjEHbjHALbkEHbiWAWbiYEHbiZAHbkINauFEHauGHAINauHAHauINITIAL AINbcBEHbcDADb",
   "cFEHbcGHAINbcHAHbdEHbcJEEMbcKAFbdHAHbcLAMbcMEEMbcNOONbcQAFbcSADbdEENbdHEENbcTEHbdHEHbcYEHa",
   "uJEEMauKAFavHAHauLAMavOOPED AINbcLEFbbBEHbbDADbdLbbFEHbbGHAINbbHAHbcEHbbJEEMbbKHAHbbLAMbbM",
   "EEMbbNOONbbQAFbbREHbbSADbcEENbcHEENbbTAHbcEHbcHALbdEHbbWAWbbYEHbbZAHbdINauMEEMauNOONauOPER",
   "ATOR HAH WITH DALbdMEEM WITH HAH WITH TATWEELauQAFauREHauSADavEENavHEENavTRETCHED AINbeBEH",
   "beDADbfOTLESS BEHbmFEHbeFEHbeGHAINbeHAHbfEHbeJEEMbeKAFbfHAHbeMEEMbeNOONbeQAFbeSADbfEENbfHE",
   "ENbeTAHbfEHbfHEHbeYEHbeZAHauTAHawILED AINbbDADbcOTLESS NOONbjQAFbbGHAINbbHAHbbJEEMbbKHAHbb",
   "LAMbbNOONbbQAFbbSADbcEENbcHEENbbYEHavEHavHALawEHauWAWauYEHauZAHawINahNUMBER MARK ABOVEaoSI",
   "GNahOPEN DAMMATANamFATHATANamKASRATANahPERCENT SIGNaiIASTRE MARK ABOVEaiLACE OF SAJDAHaiOE",
   "TIC VERSE SIGNajUND MARK ABOVEahQUESTION MARKahRAISED ROUND DOTajYaiEVERSED DAMMAaiIGHT AR",
   "ROWHEAD ABOVEbc WITH DOTaxBELOWaiOUNDED HIGH STOP WITH FILLED CENTREahSEMICOLONaiHADDAan I",
   "SOLATED FORMaoMEDIAL FORMaiIGN ALAYHE ASSALLAMamMISRAamRADI ALLAHOU ANHUaoHMATULLAH ALAYHE",
   "amSAFHAaoLLALLAHOU ALAYHE WASSALLAMaoMVATaoNAHanINDHI AMPERSANDatPOSTPOSITION MENamTAKHALL",
   "USaiMALL DAMMAanFARSI YEHapTHAanHIGH AINasDOTLESS HEAD OF KHAHasFARSI YEHatOOTNOTE MARKERa",
   "sJEEMasLAM ALEFatIGATURE ALEF WITH LAM WITH YEHbbQAF WITH LAM WITH ALEF MAKSURAbbSAD WITH ",
   "LAM WITH ALEF MAKSURAasMADDAatEEM INITIAL FORMaySOLATED FORMasNOONaw WITH KASRAasQAFasROUN",
   "DED ZEROasSADatEENatIGN SAFHAasTAHatHREE DOTSasUPRIGHT RECTANGULAR ZEROasWAWatORD AL-JUZay",
   "N-NISFayR-RUBayS-SAJDAayTH-THALATHAaxQIFaxSAHazKTAaxWAQFAasYEHav BARREE WITH TWO DOTS BELO",
   "WasZAHauINanKASRAanLOW MEEMarNOON WITH KASRAarSEENarWAWasORD IMAALAaxSHMAAMawTASHEELanWAWa",
   "nYEHaiTART OF RUB EL HIZBaiUBSCRIPT ALEFajKUNam BELOWanISOLATED FORManMEDIAL FORMajPERSCRI",
   "PT ALEF MOKHASSASaiYMBOL DOT ABOVEasBELOWaqUBLE VERTICAL BAR BELOWaoFOUR DOTS ABOVEayBELOW",
   "aoRINGaoSMALL TAH ABOVEayBELOWaoTHREE DOTS ABOVEazBELOWazPOINTING DOWNWARDS ABOVEbsBELOWap",
   "WO DOTS ABOVEaxBELOWaxVERTICALLY ABOVEbiBELOWaoWASLA ABOVEahTAIL FRAGMENTajTWEELao WITH FA",
   "THATAN ABOVEauOVERSTRUCK HAMZAbfWAWauTWO DOTS BELOWaiHOUSANDS SEPARATORaiONE LOOP ABOVEarB",
   "ELOWamONE DOT ABOVEauBELOWamTWO DOTS ABOVEavBELOWaiRIPLE DOT PUNCTUATION MARKaiURNED DAMMA",
   " BELOWahVERTICAL TAILaiOWEL SIGN DOT BELOWasINVERTED SMALL V ABOVEasSMALL V ABOVEahWAVY HA",
   "MZA BELOWahZWARAKAYag-INDIC CUBE ROOTanDIGIT EIGHTatFIVEauOURatNINEatONEatSEVENauIXatTHREE",
   "auWOatZEROanFOURTH ROOTanPER MILLE SIGNarTEN THOUSAND SIGNacCacIESacMENIAN ABBREVIATION MA",
   "RKakPOSTROPHEajCAPITAL LETTER AYBayBENayCAazHAbaEHazOayDAayECHazHazTayFEHayGHADazIMayHOayI",
   "NIayJAazHEHayKEHbaNayLIWNayMENayNOWayOHayPEHazIWRayRAazEHaySEHazHAayTIWNazOayVEWazOayXEHay",
   "YIbaWNayZAazHEakOMMAajDRAM SIGNajEMPHASIS MARKakXCLAMATION MARKajFULL STOPajHYPHENajMODIFI",
   "ER LETTER LEFT HALF RINGajQUESTION MARKajSMALL LETTER AYBawBENawCAaxHAayEHaxOawDAawECHaxHa",
   "xTawFEHawGHADaxIMawHOawINIawJAaxHEHawKEHayNawLIWNawMENawNOWawOHawPEHaxIWRawRAaxEHawSEHaxHA",
   "awTIWNaxOaxURNED AYBawVEWaxOawXEHawYIay WITH STROKEayWNawZAaxHEaqIGATURE ECH YIWNayMEN ECH",
   "bcINIbcNOWbcXEHayVEW NOWacROW POINTING DOWNWARDS THEN CURVING LEFTWARDSbmRIGHTWARDSapRIGHT",
   "WARDS THEN CURVING DOWNWARDSbnSOUTH WESTbnUPWARDSapUPWARDS THEN NORTH WESTafHEAD-SHAPED PO",
   "INTERacTICULATED LORRYaeST PALETTEabSCENDING NODEadIA SYMBOLacSERTIONacTERISKai OPERATORah",
   "MadONISHED FACEadRAEAaeONOMICAL SYMBOL FOR URANUSacYMPTOTICALLY EQUAL TOabTHLETIC SHOEacOM",
   " SYMBOLabUBERGINEacSTRAL SIGNacTO RICKSHAWaeMATED TELLER MACHINEafOBILEabVESTAN ABBREVIATI",
   "ON MARKaiLETTER AaqAarNarOaqEarEaqNaqOapBEaqHEapCEapDEaqHEapEaqEapFEapGEaqGEaqHEapHEaqMEap",
   "IaqIapJEapKEapLEapMEapNEaqGEarVEarYEaqNEaqYEapOaqOapPEapREapSEaqHEarYEaqSHEapTEaqHEaqTEapU",
   "aqUapVEapXEaqVEaqYEapYEaqYEapZEaqHEacOCADOabXEaaBABYae ANGELafBOTTLEafCHICKafSYMBOLacCK OF",
   " ENVELOPEafWITH LEFTWARDS ARROW ABOVEae-TILTED SHADOWED WHITE RIGHTWARDS ARROWaeSLANTED SO",
   "UTH ARROW WITH HOOKED TAILbfRIZONTAL TAILafPACEadONadTRIAN CAMELacDGERadMINTON RACQUET AND",
   " SHUTTLECOCKacGELadGAGE CLAIMadUETTE BREADacLINESE ADEG ADEGajCARIK PAMUNGKAHarRERENapSIKI",
   "ajDIGIT EIGHTapFIVEaqOURapNINEapONEapSEVENaqIXapTHREEaqWOapZEROajLETTER AIKARAarKARAav TED",
   "UNGarRCHAIC JNYAarSYURA SASAKaqBAas KEMBANGaqCAas LACAaqDAas MADUauURDA ALPAPRANAazMAHAPRA",
   "NAaqEF SASAKarKARAaqGAas GORAaqHAaqIKARAav TEDUNGaqJAas JERAaqKAas MAHAPRANAasF SASAKarHOT",
   " SASAKaqLAas LENGAay TEDUNGaqMAaqNAas RAMBATarGAarYAaqOKARAav TEDUNGaqPAas KAPALaqRAas REP",
   "Aax TEDUNGaqSAas SAGAavPAaqTAas LATIKatMURDA MAHAPRANAatTAWAarZIR SASAKaqUKARAav TEDUNGaqV",
   "E SASAKaqWAaqYAaqZAL SASAKajMUSICAL SYMBOL COMBINING BENDEbiENDEPbiGONGbiJEGOGANbiKEMPLIbo",
   " WITH JEGOGANbmULbo WITH JEGOGANbiTEGEHayDAENGbaINGbaNGbc GEDEbdSURANGazENGbaUNGazINGazONG",
   "azUNGayLEFT-HAND CLOSED PLAKbrUKbiOPEN PANGboINGboUNGayRIGHT-HAND CLOSED TAKbrUKbjOPEN DAG",
   "bpUGajPAMADAap LANTANGamENENGalNTIao LANTANGajSIGN BISAHaoCECEKaoREREKANaoSURANGaoULU CAND",
   "RAasRICEMajVOWEL SIGN LA LENGAbc TEDUNGauPEPETaz TEDUNGauRA REPAbb TEDUNGauSUKUay ILUTauTA",
   "LINGba REPAbf TEDUNGbbTEDUNGavEDUNGauULUax SARIajWINDUadL OF YARNaeET SHOESaeOONah-SPOKED ",
   "ASTERISKafT BOLD SCRIPT XajXak WITH BALLOTarOLD CHECKavSCRIPT XaqCHECKaqLIGHT XaqSCRIPT Xa",
   "qXahSCRIPT XahXacMUM COLONaiMBINING MARK KOQNDONavTUKWENTISajMAagFULL STOPagLETTER AanEEan",
   "FAAMAEaoEEaoOMaoUanIanKAaoENapTapUXaoIaoOapGHOMapVUUaoPAaoUaoYEEanLAaoEEEEaoIaoOQaoUanMaoA",
   "aoBAAapENaoEEEEapNaoIaoOaoUanNAaoDAAaoGAapGAapKWAENaoIaoJAEMapEEapUAEaoSHAaoTEEapUUaoUapAE",
   "aoYIanOanPAaoEEapUXaoHASE-A FIRIavGBIEE FONawHEUAEGHEUAEbbRAEavKAFAaxQawETaxUKEUTNDAawPOQa",
   "wUOQavLAPAQawET KUTawOMMAEawUaxAEPavMAEKEUPayMazBGBIEEazKPENazVEUXayNYIaySIaxNSUAEaxP PIEE",
   "TawBANYIayQawEUNJOMNDEUQawGBASAawON NGGEUAETaxOMEUTazPUQawVEUAENGAMavNAA MFONaxQawDA LEERA",
   "EWAayANGGEUAETawENawGANGUaxGENaxKUE MFONbaNZEUMawIKAawJAMawKAARAEaxINDIawSHAayIEEawTAPaz M",
   "FAAbaNTAAaxOQPENawYETaxIayT MONGKEUAEQawZA MFONaxUN MEUTavPA LEERAEWAaxAMayRAEaxMSHAEaxSHA",
   "EawETawON MFON PIPAEMBAbkGBIEEazPA NJI PIPAEMBAbmGBIEEawUPavROMavSEUNYAMawHINDA PA NJIayRA",
   "EaxOQ NSHUT YUMaxUENSHUETayMawISAawONJAMaxQaxTawUUavTEUAENayTEUWENawITA MFONawU MAEMBAaxAE",
   "PavU YUQ NAEawNKNOWNavVEEatB FEEaxUXavGHEUGHENbcUAEMavKAMawEUAEMayPUQayYEUXawIEEMaxQavLAAN",
   "AEaxM NSHUT NYAMawETawOM NTEUMavMAax NJEUAENAbaUQAawBA MAELEEayARAEaxEURIaxIT MBAAKETaxUOQ",
   "awEUQayT NGGEETawFIYAQaxON TEUAEQawONTIEENavNDU NJAAawGGAAMayEU MBUayUOQbb LARGEaxKINDI MV",
   "OPaxOMawSENaxHUETawTIEE SHEUOQawYAEMAEaxI NTEUMavPARUMawEESHIawITawUNGAAMavSAKEUAEawET TUa",
   "wHET NJAQayUAEQTUawIEEawUEavTAAMawU MAEMGBIEEayNSIEEavVEUMavWUAETavYAFU LEERAEWAawEURAEatC",
   " BUNGavFUEavGBAYIawHAPayRAEavKAAawEN FATIGUEazLAWaxTaxUKAQayMaySEUXazHEUAEPawPARAQawUOP NK",
   "AARAEaxTavLAMaxPawIQawUavMA KEUAERIayNSIEEaxEMBAaySIawBAA CABBAGE-TREEbaPICKETayNYIaxEEKEE",
   "TayRAEayUMazXaxIayRIEENayTaxUAEMayEawGBASAQawIEEawUAEavNANSANAQaxQawDAMayPaxEUAEREEazTaxID",
   "AaxOMBUawGAQaxGENayUazAEN NYAMazEETazMazONaxKAQayUE MAEMBAaxOMawJAEMayMaxEEEEayUXaxUEQawSA",
   "axEUAENaxHAQaxOMaxUNayOT NGOMawTAAaxENayUNGBAaxU MBITawYIR MKPARAQ MEUNawZAaxEUMavPENawINa",
   "xRIEENavRUavSETFONaxUXawHIQaxUEQawUAETavTAASHAEawETaxUTEUXawITA YUEayUAEPavVEUAEPENayXavWA",
   "NGKUOQawUPavYAAawEUQawU MUOMAEaxMaxWOQatD FAAawEUFEUAETavGHAAaxEUAEavKETaxUAETMEUNayMayOT ",
   "MBUAEayPawUaxNaxOMaxQawWAETawYEEavLEEEEaxTaxUAEPayMawIEEawOQawUMavMawAENJETaxLEERIawBAAaz ",
   "SEVENaxUOawEEEEaxUNayTawFEUAEazTaxIEEaxOayNawGBEUNayIEEayOFUMawONIawUawVOPavNDAMaxEEayUXax",
   "ONawGGAAMbbAEazPayEUXayUOMayWAENaxKAPayEUAEQbaRIayIEEayUNayYEEawIawJAPaxEUAEMazTaxIayEEaxU",
   "EQawSHEEayUTaxIEEPbaTaxUMawTEEayUMaxUUawUawYAMaxETaxIaxUEavPAPawEEaxUTAEawIPawUQaxUTavRAEM",
   "awEN MUCHazOLDawIIavSAPaxQawEUAEQawHEEayUAEazXaxIIaxOQaxUawOTawUAEaxEaxUavTAEawEEEEaxUAENa",
   "yNayTawIawOQawUaxOTavWAPawUAENavYAEMMAEawENawUOMayPaxWOQatE AavFAaxQawEEawOMawU CALLayIayR",
   "EMEDYaxEayTavGBETayUXawHAAMAEaxETayUAEazNazXaxOMavIavKETaxUAEayXawIawOawPEUXawUETaxOPaxTav",
   "LAAMaxPaxQawEUAEMawOMaxONayTaxQawUavMAaxEayMaxPaxQawBEEayUMawENawFEUQawGBAayENawIaxEEawONa",
   "wUAEawVIavNAaxEawDAA MY HOUSEbaSOFTNESSayPaxIAQayQaxUNawGAaxEUREUTaxGEEEEazUAEbcTayUAESHAE",
   " NYAMazPazRAEaxKAazAMIayEUAEMbaXayUMazPaxOPayQaxUAEbaTawJAEMLIaxEEaz EPOCHayUXawKOMawSHIEE",
   "ayUEazOPawTAPaxUMawYI BETWEENazCLEAVERawZAQaxUQavOavPA PEOPLEazLURALaxAayMawEEMaxUTayXawIa",
   "xEEQayTawOaxONawUaxAEayQaxEaxMavRAEaxQawEUXawIMGBAavSAAawEEaxTawHEUAEQaxIQaxOayQawOMawUAEN",
   "avTAAayQaxEN NTEUMaxMaxQawENaxUayAEQawOOayNaxQawUAEaxMayAEavVEEaxUAEawOMavWEUXawUEaxOavYAP",
   "awEUAEbaTayMayXawIEEaxTawOQ COVERazSWIMMINGawUAENaxEQaxNaxQatF EEavFOMavKAawENaxTawOawPAaw",
   "UawYEEavLAawIawOQavMawAawBAAaxENawEEEEawOavNDAAawGGAaxKWAENawIawJAEMaxUAEawSHAawTEEawUaxAE",
   "awYIavPEEaxUXawUAEavREEaxNaxUXawIEEaxIawUavSAMBAawEUXawHIIaxOaxUawIawUUavTAAaxEawETavUavVU",
   "EQavWAawUEavYAawOQaoIaoUAEapEanRAEaoEEapNapUXaoIEEapIaoUanSAMBAaoEUXaoHEUXapIIapOapUaoIaoU",
   "UanTAAapEaoENapTaoIanUanWAaoUEanYAaoOQaoUQagNJAEMLIagQUESTION MARKagSEMICOLONacNANAadJOadK",
   "aeNOTE WITH DOLLAR SIGNaoEURO SIGNaoPOUND SIGNaoYEN SIGNacR CHARTaeOF SOAPadBER POLEacSEBA",
   "LLadKETagBALL AND HOOPadSA VAH COMBINING HIGH TONEay-LOW TONEauLOW TONEax-MID TONEauMID TO",
   "NEakFULL STOPakLETTER AarBAarCEarDHIIasOarEasEasNNIarFAarGAHasBUarHWAHarIarJOarKAasPAHarMB",
   "EarOasOarPAarSEarTOarUasWUarVUarWAatDDAarYEINasIEarZOacTadAK CONSONANT SIGN HavNGagLETTER ",
   "AanBAanCAanDAanGAanHAanIanJAanKARO BAanLAanMAapNDAILING HAayNAaySAaoBAanNAaoDAaoGAaoORTHER",
   "N TAaoYAanPAapKPAK WAanRAanSAaoIMALUNGUN AayGAayHAayLAayMAayPAayRAaySAayWAayYAaoOUTHERN TA",
   "anUanWAanYAagPANGOLATajONGONANagSIGN TOMPIahYMBOL BINDU JUDULatNA METEKatPANGOLATauINARBOR",
   "ASagVOWEL SIGN EasEarIarKARO IawOarOarPAKPAK EarUas FOR SIMALUNGUN SAadHaeTUBadTERYabEACH ",
   "WITH UMBRELLAadMED ASCENDING MUSICAL NOTESahDESCENDING MUSICAL NOTESahEIGHTH NOTESahSIXTEE",
   "NTH NOTESadNSadR FACEaeDED PERSONadTING HEARTadVERacCAUSEacDacER MUGadTLEacLadLae PEPPERaf",
   "SYMBOLafWITH CANCELLATION STROKEaeHOP BELLacNGALI ABBREVIATION SIGNajNJIajU LENGTH MARKaiC",
   "URRENCY DENOMINATOR SIXTEENarNUMERATOR FOURbbONEbe LESS THAN THE DENOMINATORbbTHREEbcWOaiD",
   "IGIT EIGHTaoFIVEapOURaoNINEaoONEaoSEVENapIXaoTHREEapWOaoZEROaiGANDA MARKaiISSHARaiLETTER A",
   "aqAaqIaqUapBAaqHAapCAaqHAapDAaqDAarHAaqHAapEapGAaqHAapHAapIaqIapJAaqHAapKAaqHAasNDA TAapLA",
   "apMAapNAaqGAaqNAaqYAapOapPAaqHAapRAar WITH LOWER DIAGONALaxMIDDLE DIAGONALaqHAaqRAapSAaqHA",
   "aqSAapTAaqHAaqTAarHAapUaqUapVEDIC ANUSVARAaqOCALIC LayLaxRayRapYAaqYAaiRUPEE MARKaoSIGNaiS",
   "ANDHI MARKajIGN ANUSVARAaoVAGRAHAanCANDRABINDUanNUKTAanVIRAMAapSARGAaiVOWEL SIGN AAauIauUa",
   "tEatIauIatOatUauUatVOCALIC LbcLbbRbcRadT ARROW POINTING DOWNWARDS THEN NORTH EASTaeO BOXad",
   "ZENE RINGam WITH CIRCLEacT SYMBOLadWEENacVERAGE BOXabHAIKSUKI DANDAalIGIT EIGHTaqFIVEarOUR",
   "aqNINEaqONEaqSEVENarIXaqTHREEarWOaqZEROalOUBLE DANDAakGAP FILLER-1av2akHUNDREDS UNIT MARKa",
   "kLETTER AasAasIasUarBAasHAarCAasHAarDAasDAatHAasHAarEarGAasHAarHAarIasIarJAasHAarKAasHAarL",
   "AarMAarNAasGAasNAasYAarOarPAasHAarRAarSAasHAasSAarTAasHAasTAatHAarUasUarVAasOCALIC LazRbaR",
   "arYAakNUMBER EIGHTawYarFIFTYatVEasORTYatURarNINEavTYarONEarSEVENawTYasIXauTYarTENasHIRTYat",
   "REEasWENTYatOakSIGN ANUSVARAaqVAGRAHAapCANDRABINDUapVIRAMAarSARGAakVOWEL SIGN AAawIawUavEa",
   "vIawIavOavUawUavVOCALIC LbdRbeRakWORD SEPARATORabICYCLEagISTacG REVERSE SOLIDUSaeSOLIDUSac",
   "KINIacLLED CAPaeIARDSacOHAZARD SIGNacRDadTHDAY CAKEacSONacTCOIN SIGNadING LIPabLACK BOWTIE",
   "agCENTRE WHITE STARahHESS BISHOPas ROTATED NINETY DEGREESbbTWO HUNDRED SEVENTY DEGREESamEQ",
   "UIHOPPERaw ROTATED NINETY DEGREESamKINGaq ROTATED NINETY DEGREESazTWO HUNDRED SEVENTY DEGR",
   "EESanNIGHTas ROTATED FORTY-FIVE DEGREESbbNINETY DEGREESbbONE HUNDRED THIRTY-FIVE DEGREESbb",
   "THREE HUNDRED FIFTEEN DEGREESbcWO HUNDRED SEVENTY DEGREESbnTWENTY-FIVE DEGREESas-BISHOPatQ",
   "UEENatROOKamPAWNaq ROTATED NINETY DEGREESazTWO HUNDRED SEVENTY DEGREESamQUEENar ROTATED NI",
   "NETY DEGREESbaTWO HUNDRED SEVENTY DEGREESamROOKaq ROTATED NINETY DEGREESazTWO HUNDRED SEVE",
   "NTY DEGREESamTURNED BISHOPatKINGauNIGHTatPAWNatQUEENatROOKahIRCLEam FOR RECORDanWITH DOWN ",
   "ARROWasTWO WHITE DOTSasWHITE DOT RIGHTahLUB SUITahROSS ON SHIELDahURVED DOWNWARDS AND LEFT",
   "WARDS ARROWbbRIGHTWARDS ARROWanLEFTWARDS AND DOWNWARDS ARROWbbUPWARDS ARROWanRIGHTWARDS AN",
   "D DOWNWARDS ARROWbcUPWARDS ARROWanUPWARDS AND LEFTWARDS ARROWazRIGHTWARDS ARROWagDIAMONDan",
   " CENTREDaoMINUS WHITE XaoON CROSSaoSUITaoWITH DOWN ARROWahOWN POINTING BACKHAND INDEXak-PO",
   "INTING DOUBLE TRIANGLEauISOSCELES RIGHT TRIANGLEauSMALL TRIANGLEauTRIANGLEakWARDS EQUILATE",
   "RAL ARROWHEADahRAUGHTS KINGapMANaiOPLETagFLAGaiORETTEahOLDERaiUR POINTED STARagHARD SHELL ",
   "FLOPPY DISKahEARTal SUITaiXAGONahORIZONTAL ELLIPSEaiURGLASSagLARGE CIRCLEamSQUAREahEFT LAN",
   "E MERGEalPOINTING BACKHAND INDEXauINDEXak-POINTING DOUBLE TRIANGLEbj WITH VERTICAL BARauIS",
   "OSCELES RIGHT TRIANGLEauPOINTERauSMALL TRIANGLEauTRIANGLEakWARDS BULLETaqEQUILATERAL ARROW",
   "HEADahOWER LEFT TRIANGLEamRIGHT TRIANGLEaiZENGEagMEDIUM DIAMONDaoOWN-POINTING TRIANGLEbj C",
   "ENTREDanLEFT-POINTING TRIANGLEbj CENTREDaoOZENGEanRIGHT-POINTING TRIANGLEbk CENTREDanSMALL",
   " DIAMONDatLOZENGEatSQUAREaoQUAREanUP-POINTING TRIANGLEbh CENTREDahOON LILITHagNIBagOCTAGON",
   "agPARALLELOGRAMahENNANTajTAGONahUSHPINagQUESTION MARK ORNAMENTagRECTANGLEahIGHT POINTING B",
   "ACKHAND INDEXavINDEXal-POINTING DOUBLE TRIANGLEbk WITH VERTICAL BARavISOSCELES RIGHT TRIAN",
   "GLEavPENTAGONawOINTERavSMALL TRIANGLEavTRIANGLEbd WITH DOUBLE VERTICAL BARalWARDS ARROWawH",
   "EADarBULLETarEQUILATERAL ARROWHEADahOSETTEagSAFETY SCISSORSahCISSORSahHOGI PIECEahKULL AND",
   " CROSSBONESahLIGHTLY SMALL CIRCLEavSQUAREahMALL DIAMONDamLOZENGEamSQUAREanTARaiILING FACEa",
   "hNOWMANahPADE SUITahQUAREam BUTTONanCENTREDanFOR STOPahTARahUN WITH RAYSagTELEPHONEahINY D",
   "IAMONDalLOZENGEalSQUAREahOUCHTONE TELEPHONEahRUCKahWO-WAY LEFT WAY TRAFFICagUNIVERSAL RECY",
   "CLING SYMBOLahP POINTING BACKHAND INDEXai-POINTING DOUBLE TRIANGLEasISOSCELES RIGHT TRIANG",
   "LEasSMALL TRIANGLEasTRIANGLEaiPER LEFT TRIANGLEamRIGHT TRIANGLEaiWARDS EQUILATERAL ARROWHE",
   "ADagVERTICAL ELLIPSEapRECTANGLEajY SMALL DIAMONDarLOZENGEarSQUAREaf-FEATHERED NORTH EAST A",
   "RROWaqRIGHTWARDS ARROWaqSOUTH EAST ARROWagLETTER CAPITAL CavHavIavRavZadNK SYMBOLacOCK SEX",
   "TANT-1ap2aq3ar4as5as6ar5as6ar6aq4ar5as6ar6aq5ar6aq6ap3aq4ar5as6ar6aq56aq6ap4aq5ar6aq6ap5aq",
   "6ap6ao2ap3aq4ar5as6ar6aq5ar6aq6ap4aq5ar6ap5aq6ap6ao3ap4aq5ar6aq6ap5aq6ap6ao4ap5aq6ap6ao5ap",
   "6ao6adSSOMadWFISHacUE BOOKafHEARTaeBERRIESabOARacLD EIGHT SPOKED ASTERISKafFIVE SPOKED AST",
   "ERISKafGREEK CROSSafSALTIREagIX SPOKED ASTERISKafWHITE CIRCLEalSQUAREacMadBacNEacOKaeMARKa",
   "i TABSaeSadMERANGacPOMOFO FINAL LETTER GawHawKawPawTajLETTER AarHarIasNNarMarNasGasNarUasN",
   "NaqBarUaqCarHaqDaqEarEarHarIarNasGasNarRaqFaqGarHarNarUarWaqHaqIarHarMarNNatNarRarUaqJarIa",
   "qKarWaqLarHaqMaqNarGasGarNaqOar WITH DOT ABOVEarEarMarNGasNarOarUaqPaqQaqRaqSarHaqTaqUarNN",
   "aqVaqXaqZarHarIarYacTTLE WITH POPPING CORKaeOM ARC ANTICLOCKWISE ARROWahCURLY BRACKETahHAL",
   "F BLACK CIRCLEamINTEGRALamLEFT PARENTHESISamRIGHT PARENTHESISahLEFT CORNERanROPamHALF BRAC",
   "KETahPARENTHESISahRIGHT CORNERaoROPanHALF BRACKETahSQUARE BRACKETav OVER TOP SQUARE BRACKE",
   "TahTORTOISE SHELL BRACKETacUQUETah OF FLOWERSacW AND ARROWadL OF HYGIEIAafWITH SPOONaeINGa",
   "dTIEag WITH LEFT HALF BLACKamRIGHT HALF BLACKacX DRAWINGS DOUBLE DOWN AND HORIZONTALbdLEFT",
   "bdRIGHTauHORIZONTALauUP AND HORIZONTALbbLEFTbbRIGHTauVERTICALbc AND HORIZONTALbhLEFTbhRIGH",
   "TapWN DOUBLE AND HORIZONTAL SINGLEbdLEFT SINGLEbdRIGHT SINGLEasHEAVY AND HORIZONTAL LIGHTb",
   "cLEFT LIGHTbhUP LIGHTbcRIGHT LIGHTbiUP LIGHTbcUP HORIZONTAL LIGHTasLIGHT AND HORIZONTAL HE",
   "AVYbcLEFT HEAVYbhUP HEAVYbcRIGHT HEAVYbiUP HEAVYbcUP HORIZONTAL HEAVYasSINGLE AND HORIZONT",
   "AL DOUBLEbdLEFT DOUBLEbdRIGHT DOUBLEanHEAVY DOUBLE DASH HORIZONTALbfVERTICALavWNax AND HOR",
   "IZONTALbcLEFTbcRIGHTatHORIZONTALatLEFTax AND LIGHT RIGHTatQUADRUPLE DASH HORIZONTALbiVERTI",
   "CALatRIGHTatTRIPLE DASH HORIZONTALbfVERTICALatUPav AND HORIZONTALbaLEFTbbIGHT DOWNbaRIGHTa",
   "tVERTICALbb AND HORIZONTALbgLEFTbgRIGHTanLEFT DOWN HEAVY AND RIGHT UP LIGHTasHEAVY AND RIG",
   "HT DOWN LIGHTbiUP LIGHTbiVERTICAL LIGHTasLIGHT AND RIGHT DOWN HEAVYbiUP HEAVYbiVERTICAL HE",
   "AVYasUP HEAVY AND RIGHT DOWN LIGHTaoIGHT ARC DOWN AND LEFTbgRIGHTaxUP AND LEFTbeRIGHTatDIA",
   "GONAL CROSSbcDIAMONDbcMIDDLE LEFT TO LOWER CENTREcd TO MIDDLE RIGHTbrUPPER CENTRE TO MIDDL",
   "E RIGHTct TO LOWER CENTREbjRIGHT TO LOWER CENTREbsUPPER CENTRE TO MIDDLE LEFT TO LOWER CEN",
   "TREbcUPPER CENTRE TO MIDDLE LEFTcd AND MIDDLE RIGHT TO LOWER CENTREceTO LOWER CENTREct TO ",
   "MIDDLE RIGHTbzRIGHTce AND MIDDLE LEFT TO LOWER CENTREcfTO LOWER CENTREcu TO MIDDLE LEFTbiL",
   "EFT TO LOWER RIGHTbiRIGHT TO LOWER LEFTauOUBLE DASH HORIZONTALbfVERTICALavWNax AND HORIZON",
   "TALbcLEFTbcRIGHTatHORIZONTALbd WITH VERTICAL STROKEatLEFTax AND HEAVY RIGHTatQUADRUPLE DAS",
   "H HORIZONTALbiVERTICALatRIGHTatTRIPLE DASH HORIZONTALbfVERTICALatUPav AND HEAVY DOWNbbORIZ",
   "ONTALbaLEFTbaRIGHTatVERTICALbb AND HORIZONTALbgLEFTbgRIGHTanRIGHT DOWN HEAVY AND LEFT UP L",
   "IGHTatHEAVY AND LEFT DOWN LIGHTbiUP LIGHTbiVERTICAL LIGHTatLIGHT AND LEFT DOWN HEAVYbiUP H",
   "EAVYbiVERTICAL HEAVYatUP HEAVY AND LEFT DOWN LIGHTanUP DOUBLE AND HORIZONTAL SINGLEbbLEFT ",
   "SINGLEbbRIGHT SINGLEaqHEAVY AND DOWN HORIZONTAL LIGHTbaHORIZONTAL LIGHTbaLEFT DOWN LIGHTbf",
   "LIGHTbaRIGHT DOWN LIGHTbgLIGHTaqLIGHT AND DOWN HORIZONTAL HEAVYbaHORIZONTAL HEAVYbaLEFT DO",
   "WN HEAVYbfHEAVYbaRIGHT DOWN HEAVYbgHEAVYaqSINGLE AND HORIZONTAL DOUBLEbbLEFT DOUBLEbbRIGHT",
   " DOUBLEanVERTICAL DOUBLE AND HORIZONTAL SINGLEbhLEFT SINGLEbhRIGHT SINGLEawHEAVY AND HORIZ",
   "ONTAL LIGHTbgLEFT LIGHTbgRIGHT LIGHTawLIGHT AND HORIZONTAL HEAVYbgLEFT HEAVYbgRIGHT HEAVYa",
   "wSINGLE AND HORIZONTAL DOUBLEbhLEFT DOUBLEbhRIGHT DOUBLEadING GLOVEacYadS SYMBOLabPHabRAHM",
   "I DANDAaiIGIT EIGHTanFIVEaoOURanNINEanONEanSEVENaoIXanTHREEaoWOanZEROaiOUBLE DANDAahLETTER",
   " AapAapIapUaoBAapHAaoCAapHAaoDAapDAaqHAapHAaoEaoGAapHAaoHAaoIapIaoJAapHAaoKAapHAaoLAapLAao",
   "MAaoNAapGAapNAapYAaoOapLD TAMIL LLAbaLAayNNNAayRRAaySHORT EbeOaoPAapHAaoRAaoSAapHAapSAaoTA",
   "apHAapTAaqHAaoUapUaoVAapOCALIC LaxLawRaxRaoYAahNUMBER EIGHTatYaoFIFTYaqVEapORTYaqURaoJOINE",
   "RaoNINEasTYaoONEar HUNDREDasTHOUSANDaoSEVENatTYapIXarTYaoTENapHIRTYaqREEapWENTYaqOahPUNCTU",
   "ATION CRESCENT BARatDOTavUBLE DOTatLINEauOTUSahSIGN ANUSVARAamCANDRABINDUamJIHVAMULIYAamOL",
   "D TAMIL VIRAMAamUPADHMANIYAamVISARGAahVIRAMAaiOWEL SIGN AAatIatUasBHATTIPROLU AAasEasIatIa",
   "sOatLD TAMIL SHORT EbiOasUatUasVOCALIC LbbLbaRbbRadILLE PATTERN BLANKaqDOTS-1aw2ax3ay4az5b",
   "a6bb7bc8bb8ba7bb8ba8az6ba7bb8ba8az7ba8az8ay5az6ba7bb8ba8az7ba8az8ay6az7ba8az8ay7az8ay8ax4a",
   "y5az6ba7bb8ba8az7ba8az8ay6az7ba8az8ay7az8ay8ax5ay6az7ba8az8ay7az8ay8ax6ay7az8ay8ax7ay8ax8a",
   "w3ax4ay5az6ba7bb8ba8az7ba8az8ay6az7ba8az8ay7az8ay8ax5ay6az7ba8az8ay7az8ay8ax6ay7az8ay8ax7a",
   "y8ax8aw4ax5ay6az7ba8az8ay7az8ay8ax6ay7az8ay8ax7ay8ax8aw5ax6ay7az8ay8ax7ay8ax8aw6ax7ay8ax8a",
   "w7ax8aw8av2aw3ax4ay5az6ba7bb8ba8az7ba8az8ay6az7ba8az8ay7az8ay8ax5ay6az7ba8az8ay7az8ay8ax6a",
   "y7az8ay8ax7ay8ax8aw4ax5ay6az7ba8az8ay7az8ay8ax6ay7az8ay8ax7ay8ax8aw5ax6ay7az8ay8ax7ay8ax8a",
   "w6ax7ay8ax8aw7ax8aw8av3aw4ax5ay6az7ba8az8ay7az8ay8ax6ay7az8ay8ax7ay8ax8aw5ax6ay7az8ay8ax7a",
   "y8ax8aw6ax7ay8ax8aw7ax8aw8av4aw5ax6ay7az8ay8ax7ay8ax8aw6ax7ay8ax8aw7ax8aw8av5aw6ax7ay8ax8a",
   "w7ax8aw8av6aw7ax8aw8av7aw8av8aeNacEADaeK PERMITTED HEREaeST-FEEDINGadVEacICKadDE WITH VEIL",
   "aeGE AT NIGHTadEFCASEafSacOCCOLIadKEN BARahCIRCLE WITH NORTHWEST ARROWahHEARTadOMadWN HEAR",
   "TabSabUBBLE TEAagSacCKETacGadINESE END OF SECTIONajLETTER AaqBAaqCAaqDAaqGAaqHAaqJAaqKAaqL",
   "AaqMAarPAaqNAarGAasKAarRAarYAasCAaqPAaqRAaqSAaqTAaqVAaqYAajPALLAWAajVOWEL SIGN AEauEauIauO",
   "auUacHID LETTER AanBAanDAanGAanHAanIanKAanLAanMAanNAaoGAanPAanRAanSAanTAanUanWAanYAagVOWEL",
   " SIGN IarUacILDING CONSTRUCTIONacLLETag OPERATORaeHORNai WITH SOUND WAVESaeSEYEacRRITOacSa",
   "d STOPadT IN SILHOUETTEaeS IN SILHOUETTEacTTERagFLYabYTE ORDER MARKacZANTINE MUSICAL SYMBO",
   "L AGOGI ARGIbiOTERIbfGORGIbjOTERIbfMESIbhTRIAbfPOLI ARGIbkGORGIbaNATRICHISMAbbTIKENOKYLISM",
   "AbhMAbaPESO EKFONITIKONbgXO NEObbLIbbODERMA ARCHAIONbiNEObcSTROFOI SYNDESMOS NEObkTELOUS I",
   "CHIMATOSbiSbj DIPLIbkNEObcTHEMAbaRGONbdSYNTHETONbbKTIKO DIbhGAbhKEbhNIbhPAbhVOUbhZOazCHAMI",
   "LIbfONbbOREVMA ARCHAIONbiNEObbROA KLITONbfSPATHIbfZYGOSazDASEIAbaIARGONbcSTOLI APLI MEGALI",
   "boIKRIbiDIPLIbiTHESEOSbbESIS APLI DYO DODEKATAbgDIGRAMMOS EX DODEKATAbgMONOGRAMMOS TESSERA",
   " DODEKATAbgTETARTIMORIONbhRIGRAMMOS OKTO DODEKATAbjTIMORIONbbFTOGGOS OUbbGORGONbh PARESTIG",
   "MENON ARISTERA ANOcfKATObwDEXIAbcRAMMA GGbbPLIbe ARCHAIONbaYOazEKSTREPTONbaLAFRONbaNARXIS ",
   "KAI FTHORA VOUbbDOFONONbaPEGERMAbaTERON ARGOSYNTHETONbgPARAKALESMAbaXO EKFONITIKONazFANERO",
   "SIS DIFONIASbjMONOFONIASbjTETRAFONIASbaHTORA SKLIRON CHROMA VASISbaTHORA ARCHAIONbo DEYTER",
   "OU ICHOUbgDIATONIKI DIbqKEbqNANAbrI ANObtKATObqPAbqZObgENARMONIOS ANTIFONIAbgI YFESIS TETA",
   "RTIMORIONbgMALAKON CHROMA DIFONIASbvMONOFONIASbgNAOS ICHOSbhENANObgSKLIRON CHROMA SYNAFIbv",
   "VASISboDIATONON DIazGENIKI DIESISbgYFESISbaORGON ARCHAIONbgNEO ANObkKATObgPARESTIGMENON AR",
   "ISTERAbuDEXIAbeSYNTHETONbcTHMIKON N APLOUNbmDIPLOUNbaRONTHISMATAazICHADINbaMIDIARGONbcFONO",
   "NbdTHORAbhONbaSAKIA TELOUS ICHIMATOSbbON ARCHAIONbeNEOazKATAVA TROMIKONbfSMAbcHISTIbaENTIM",
   "A ARCHAIONbhNEO ANOblKATOblMESObgTAbi ARCHAIONbjNEO ANObnKATObnMESObaLASMAbf ANObgKATObaON",
   "TEVMAbh ALLObbRONISbbUFISMAbaRATIMA ALLObiRCHAIONbhNEObgTAbfOKOUFISMAbgYPORROONbbEMASTIbaY",
   "LISMAazLEIMMA DYO CHRONONbgENOS CHRONOUbgIMISEOS CHRONOUbgTESSARON CHRONONbhRION CHRONONbb",
   "MOIbaYGISMAazMARTYRIA ALLI DEYTEROS ICHOSbnPROTOS ICHOSbiDEYTEROS ICHOSbiLEGETOS ICHOSbiPL",
   "AGIOS ICHOSbqTETARTOS ICHOSbjROTOS ICHOSbnVARYS ICHOSbiTETARTOS ICHOSbrLEGETOS ICHOSbjRIFO",
   "NIASblTOS ICHOSbiVARYS ICHOSbaIKRON ISONazNANAazOLIGON ARCHAIONbgNEObaMALONbaXEIA DIPLIbfE",
   "KFONITIKONbfNEObeI ARCHAIONbaYRANISMA ARCHAIONbjNEOazPARAKALESMA ARCHAIONblNEObeLITIKIbk A",
   "RCHAIONblNEObcICHONbaELASTONbh NEObbRISPOMENIbbTASMAbeTIbfOKOUFISMAbaIASMA ARCHAIONbgNEOba",
   "SIFISTOLYGISMAbhNbi NEObhPARAKALESMAbhSYNAGMAbcLIbdONazRAPISMAbaEVMAazSAXIMATAbaEISMAbf NE",
   "ObaIMANSIS ARSEOSbo DISIMOUbpTETRASIMOUbqRISIMOUbiTHESEOSbp DISIMOUbqTETRASIMOUbrRISIMOUba",
   "TAVROSbg APODEXIAbbIGMAbbRAGGISMATAbaYNAGMA ARCHAIONbhMETA STAVROUbhNEObcEVMAbbRMAbeTIKIaz",
   "TELEIAbbSSERAbbTRAPLIbaHEMAbe APLOUNbeTISMOS ESObmXObcS KAI APOTHESbbITAbaINAGMAbaRIAbcGOR",
   "GONbcPLIbbOMIKOLYGISMAbgN ALLObjRCHAIONbiNEObgPARAKALESMAbhSIFISTONbgSYNAGMAazVAREIA DIPLI",
   "bgEKFONITIKONbgNEObfI ARCHAIONbbTHYazXIRON KLASMAazYFEN ANObeKATObcSIS APLI DYO DODEKATAbg",
   "DIGRAMMOS EX DODEKATAbgMONOGRAMMOS TESSERA DODEKATAbgTRIGRAMMOS OKTO DODEKATAbjTIMORIONbaP",
   "OKRISISbi DIPLIbcRROIbbSILIaaCACTUSacDA UNAadUCEUSacLENDARadL ME HANDacMERAag WITH FLASHad",
   "PINGacNadADIAN SYLLABICS AauAavIavYauIavVILIK BauNauTHAPASCAN MbeSauYatBEAVER DENE LbfRauI",
   "BLE-CREE YauLACKFOOT AbdEbdIbdKAbeEbeIbeObdNAbeEbeIbeObdObdSbdWbeAbeEbeIbeOatCauAavAawIavR",
   "RIER CHAbdEbeEbdIbdObdUbbDEEbdNE GEEbeTAL SbcIbcLAbdEbeEbdIbdObdUbcZAbdEbeEbdIbdObdUbbEEbb",
   "GAbdAbcEbdEbcHAbdEbeEbdIbdObdUbcIbcObcUbcWAbdUbbHbcEEbcIbcWAbdEbeEbdIbdObdUbbIbcNITIAL Zbb",
   "JAbcEbdEbcIbcJAbdEbeEbdIbdObdUbcObcUbcWAbbKHAbdEbeEbdIbdObdUbcKbdAbdEbeEbdIbdObdUbbLAbcEbd",
   "EbcHAbdEbeEbdIbdObdUbcIbcObcUbbMAbcEbdEbcIbcObcUbbNAbcEbdEbcGbcIbcObcUbbPbcAbcEbdEbcIbcObc",
   "UbbRAbcEbdEbcIbcObcUbbSAbcEbdEbcHbdAbdEbeEbdIbdObdUbcIbcObcUbbTHAbdEbeEbdIbdObdUbcLAbdEbeE",
   "bdHAbeEbfEbeIbeObeUbdIbdObdUbcSAbdEbeEbdIbdObdUbcTAbdEbeEbdIbdObdSAbeEbfEbeIbeObeUbdUbbWAb",
   "cEbdEbcIbcObcUbbYAbcEbdEbcIbcObcUbbZbcAbcEbdEbcIbcObcUauEauHI SIGNauIavIauOavOauWAawAavEav",
   "IawIavOawOatEauASTERN WauNatFauAavAawIauEauIavIavNAL ACUTEazBOTTOM HALF RINGazDOUBLE ACUTE",
   "bgSHORT VERTICAL STROKESbbWN TACKazGRAVEazMIDDLE DOTazPLUSazRAISED DOTbaIGHT HALF RINGbbNG",
   "azSHORT HORIZONTAL STROKEbaMALL RINGazTOP HALF RINGauOavOauULL STOPauWAAatGLOTTAL STOPatHK",
   "auYPHENatIauIauNatKauAavAawIavYauEauIavIauOavOauWavAawAawYavEavIawIavOawOatLauAavAawIavYau",
   "EauHavAawAavIawIavOawOauIavIauOavOauWAawAavEavIawIavOawOatMauAavAawIavYauEavDIAL LbaRauHau",
   "IavIauOavOawSE-CREE SKauWAawAavEavIawIavOawOatNau-CREE THEbcIbdIauAavAawIavSKAPI CWAAbbKWA",
   "AbbMWAAbbNWAAbbS-WbcCWAbcKWbeAbcPWAbcTWAbcWAAbbTWAAbbWAAbcOObbYWAAavTTILIK HAbeAbdIbeIbdOb",
   "eObcSHRAbgAbfIbgIbfObgOavYauEauGavAawAaxIawIavIawIavOawOauHauIavIauNGawAaxAawIaxIawOaxOauO",
   "avOavYauUNAVIK HbcAbdAbcEbcIbdIbcObdOayUT HauWAawAavEavIawIavOawOatOauJIBWAY CbbKbbMbbNbcW",
   "IbeIbdObeObbPbbSbcHbbTauNauOauYatPauAavAawIavYauEauIavIauOavOavYauWAawAavEavIawIavOawOawYa",
   "tQauAavAawIavIauIavIauOavOatRau-CREE REbbWEauAavAawIavYauEauIavIauOavOauWAawAavEEavIawIavO",
   "awOatSauAavAawIavYawISI HAbbEbbIbbObcObaJIbbUbcUbaMbaSHAbcEbcIbcObdObcWEbaTHbaYIauEauHavAa",
   "wAawYavEavIawIavOawOawYavWAaxAawEawIaxIawOaxOaxYauIavIauOavOavUTH-SLAVEY KAHbhEHbhIHbhOHav",
   "YauPAavEavIavOauWavAawAavEavIawIavOawOatTauAavAawIavYauEauHav-CREE THbdAbeAbdEbdIbeIbdObeO",
   "avAawAavEavIawIavOawOavWAaxAawEauIavIauLHAawEawIawOaxOawWEauOavOauTAavEavHawAaxAawEawIawOa",
   "xOawWEavIavOauWAawAavEavIawIavOawOauYAavEavIavOatWAavAavYauEavST-CREE CWAbgAbfEbfIbgIbfObg",
   "ObdFWAAbdKWAbgAbfEbfIbgIbfObgObdLbeAbfAbeEbeObfObeWAbgAbfEbfIbgIbfObgObdMbeWAbgAbfEbfIbgIb",
   "fObgObdNWAbgAbfEbdPbeWAbgAbfEbfIbgIbfObgObdRbeAbeEbeIbeObeWAAbdSHWAbhAbgEbgIbhIbgObhObeWAb",
   "gAbfEbfIbgIbfObgObdTHWAAbeWAbgAbfEbfIbgIbfObgObdWAbfAbeEbeIbfIbeObfObdYbeWAbgAbfEbfIbgIbfO",
   "bgOaxERN WauIavIauOavOawDS-CREE FINAL THbeTHbgAbgEbgIbgObgWAbiAbhEEbhIbiIbhObiOatYau-CREE ",
   "COObaKOObaLOObaMOObaNOObaOObaPOObbWAAbaSOObaTOObaWbaYOOauAavAawIavYauEauIavIauOavOavYauWAa",
   "wAavEavIawIavOawOadCELag CHARACTERahTAGagLATION XafRadDLEaeYadNED FOODadOEacPITULUMadRICOR",
   "NacR SLIDINGadD FILE BOXafINDEXak DIVIDERSadE OFaeTaf INSERTION POINTadIAN LETTER Aap2aoBa",
   "oC-18aq39aoDap2aoEap2aoGap2aoIapIaoKap2aoLapDaq2aoMapBaq2aq3aq4aoNapDapGapNaoOaoPap2aoQaoR",
   "apRaoSapHaq2apSapTaq2aoTapTaq2aoUapUaqUar2ar3arUaoXadONaeUSEL HORSEadP STREAMERaeENTRY SAW",
   "adRIAGE RETURNaeOTacSTLEacTad FACEai WITH TEARS OF JOYaoWRY SMILEacUCASIAN ALBANIAN CITATI",
   "ON MARKatLETTER ALTbbORbaBETbaCARbcYNbbHAbdTbcIbcOYbbYAWbdYbaDATbbYANbbZAYbcYAYbaEBbbYNbaF",
   "AMbaGHEYSbbIMbaHEYTbaINYAbbRBbbWNbaJAYNbbHOXbaKARbbIWbaLANbbYITbaMAQbaNOWCbaONbaPENbbIWRba",
   "QARbcYbaRATbaSEYKbbHAbdKbcOYbaTASbbIWRbbYAYbaVEYZbaXEYNbaYAYDbbOWDbaZARLbbHAbcILadTION SIG",
   "NabCHabEDI SIGNaeLLAacLTIC CROSSacNT SIGNaeRE LINE SYMBOLagLINE LOW LINEalOVERLINEacRESabG",
   "JabHAINSaeRadKMA AU MARKahDANDAaiIGIT EIGHTanFIVEaoOURanNINEanONEanSEVENaoIXanTHREEaoWOanZ",
   "EROaiOUBLE DANDAahLETTER AAaoBAAapHAAaoCAAapHAAaoDAAapDAAaqHAAapHAAaoEaoGAAapHAAaoHAAaoIao",
   "JAAapHAAaoKAAapHAAaoLAAapHAAaoMAAaoNAAapGAAapNAAapYAAaoPAAapHAAaoRAAaoSAAaoTAAapHAAapTAAaq",
   "HAAaoUaoVAAaoWAAaoYAAapYAAahMAAYYAAahO MARKahQUESTION MARKahSECTION MARKaiIGN ANUSVARAamCA",
   "NDRABINDUamVISARGAahVIRAMAaiOWEL SIGN AatAatIatUasEatIasIatIasOatIasUatUadM CONSONANT SIGN",
   " FINAL HbaMbaNGauLAauRAauWAauYAafDIGIT EIGHTalFIVEamOURalNINEalONEalSEVENamIXalTHREEamWOal",
   "ZEROafLETTER AanIamBAanBAanHAamCHAaoHAamDAanDAanHAamEamFINAL CHasGasKasLasNatGasPasRasSSas",
   "TasYamGAanHAamHAamIamJAanHAamKAanHAamLAamMAanUEamNAanGAaoUEanHAaoJAaoUEanUEamOamPAanHAanPA",
   "amRAamSAanSAamTAanHAamUamVAamYAafPUNCTUATION DANDAasOUBLE DANDAarSPIRALarTRIPLE DANDAafVOW",
   "EL SIGN AAarIarUaqEIaqIarIaqOarEaqUarEadRACTER TABULATIONau SETavWITH JUSTIFICATIONalIEaeT",
   " WITH DOWNWARDS TRENDalUPWARDS TRENDay AND YEN SIGNacECK MARKafER BOARDan FILLadERING MEGA",
   "PHONEaeSE WEDGEadQUERED FLAGadROKEE LETTER AaqDAarEarIarLAarOarUarVaqEaqGAarEarIarOarUarVa",
   "qHAarEarIarNAarOarUarVaqIaqKAaqLAarEarIarOarUarVaqMAarEarIarOarUarVaqNAasHarEarIarOarUarVa",
   "qOaqQUAasEasIasOasUasVaqSarAarEarIarOarUarVaqTAarEarIarLAasEasIasOasUasVarSAasEasIasOasUas",
   "VaqUaqVaqWAarEarIarOarUarVaqYAarEarIarOarUarVajSMALL LETTER AawDAaxEaxIaxLAaxOaxUaxVawEawG",
   "AaxEaxIaxOaxUaxVawHAaxEaxIaxNAaxOaxUaxVawIawKAawLAaxEaxIaxOaxUaxVawMAaxEaxIaxOaxUaxVawNAay",
   "HaxEaxIaxOaxUaxVawOawQUAayEayIayOayUayVawSaxAaxEaxIaxOaxUaxVawTAaxEaxIaxLAayEayIayOayUayVa",
   "xSAayEayIayOayUayVawUawVawWAaxEaxIaxOaxUaxVawYAaxEaxIaxOaxUaxVaeRIESafY BLOSSOMadSTNUTacI ",
   "RHOadCKENadLDafREN CROSSINGadPMUNKadRONacOCOLATE BARadPSTICKSadRASMIAN LETTER ALEPHatYINas",
   "BETHasCURLED WAWasDALETHasGIMELasHEauTHasKAPHasLAMEDHasMEMasNUNasPEasRESHasSAMEKHatHINatMA",
   "LL ALEPHasTAWasWAWasYODHasZAYINalNUMBER FOURasONEav HUNDREDasTENatHREEatWENTYauOacRISTMAS ",
   "TREEacURCHabINEMAacRCLE DIVIDED BY HORIZONTAL BAR AND TOP HALF DIVIDED BY VERTICAL BARahWI",
   "TH ALL BUT UPPER LEFT QUADRANT BLACKamHORIZONTAL BARamLEFT HALF BLACKanOWER HALF BLACKamRI",
   "GHT HALF BLACKamSMALL CIRCLE TO THE RIGHTanUPERIMPOSED XamTWO HORIZONTAL STROKES TO THE RI",
   "GHTamUPPER HALF BLACKasRIGHT QUADRANT BLACKamVERTICAL FILLagD ANTICLOCKWISE ARROWav-ROTATE",
   "D DIVISION SIGNajSTERISK OPERATORaiBOLD XajULLETaiC WITH OVERLAID BACKSLASHajCajDajROSS FO",
   "RMEEau WITH FOUR DOTSbaTWO DOTSaoPOMMEEanING LANESaiDASHajIGIT EIGHTaoFIVEapOURaoNINEaoONE",
   "aoSEVENapIXaoTHREEapWOaoZEROakVISION SIGNasLASHajOLLAR SIGN WITH OVERLAID BACKSLASHakT OPE",
   "RATORaiEQUALSaiGREATER-THANaiHANGUL CHIEUCHaw AaqIEUCau AapHIEUHau AapIEUNGau AavUapKHIEUK",
   "Haw AaqIYEOKav AapMIEUMau AapNIEUNau AapPHIEUPHaw AaqIEUPau AapRIEULau AapSIOSat AapTHIEUT",
   "Haw AaqIKEUTav AajEAVY WHITE RIGHTWARDS ARROWajORIZONTAL BAR WITH NOTCHajUMAN FIGUREaiIDEO",
   "GRAPH ACCEPTatDVANTAGEatLLIANCEatTTENTIONasCENTREatONGRATULATIONauPYauRRECTasEARTHatIGHTat",
   "NTERPRISEatXCELLENTasFEMALEatINANCIALauREauVEatOURasHAVEatIGHasITEMasKINDERGARTENatOTOasLA",
   "BORatEFTatOWasMALEatEDICINEauTALatOONasNAMEatIGHTauNEasONEasPRINTasQUESTIONasRELIGIONauSOU",
   "RCEavTatIGHTasSCHOOLatECRETauVENatIXatOCIETYatPECIALatTOCKauUDYatUITABLEauNauPERVISEasTENa",
   "tHREEatWOasWATERatOODajNFORMATION SOURCEajTALIC LATIN CAPITAL LETTER CbkRaiKATAKANA AarEar",
   "HAasEasIasOasUarIarKAasEasIasOasUarMAasEasIasOasUarNAasEasIasOasUarOarRAasEasIasOasUarSAas",
   "EasIasOasUarTAasEasIasOasUarUarWAasEasIasOarYAasOasUajOREAN CHARACTER CHAMKOazJUEUIaiLATIN",
   " CAPITAL LETTER AbdBbdCbdDbdEbdFbdGbdHbdIbdJbdKbdLbdMbdNbdObdPbdQbdRbdSbdTbdUbdVbdWbdXbdYb",
   "dZaoSMALL LETTER AbbBbbCbbDbbEbbFbbGbbHbbIbbJbbKbbLbbMbbNbbObbPbbQbbRbbSbbTbbUbbVbbWbbXbbY",
   "bbZajESS-THANaiMINUSajULTIPLICATION SIGN WITH CIRCUMFLEX ACCENTaiNUMBER EIGHTEENauY ON BLA",
   "CK SQUAREaqLEVENapFIFTEENatYau ON BLACK SQUAREaqORTYau EIGHTavFIVEawOURavNINEavON BLACK SQ",
   "UAREaxEavSEVENawIXavTHREEawWOarURTEENapNINETEENapSEVENTEENavY ON BLACK SQUAREaqIXTEENatY O",
   "N BLACK SQUAREapTENas ON BLACK SQUAREaqHIRTEENauYav EIGHTawFIVEaxOURawNINEawON BLACK SQUAR",
   "EayEawSEVENaxIXawTHREEaxWOaqWELVEasNTYav EIGHTawFIVEaxOURawNINEawON BLACK SQUAREayEawSEVEN",
   "axIXawTHREEaxWOaiOPEN CENTRE EIGHT POINTED STARaiPARALLELajERPENDICULARajLUSajOSTAL MARKai",
   "REVERSE SOLIDUSajING OPERATORaiSQUAREaiTIMESajRIANGLEaq DOWNaiVERTICAL BARaiWHITE BULLETao",
   "STARajZaiXaiZERO WITH SLASHaeULATION FUNCTIONafMFLEX ACCENTafS TENTacTYSCAPEaj AT DUSKabJK",
   " RADICAL BAMBOOanLUEanOLT OF CLOTHaoNEaoXanRUSH ONEasTWOamC-SIMPLIFIED BIRDazCARTazDRAGONa",
   "zEATbaVENazFISHbaLYbaROGazGATEbaOLDazHORSEazLEAFbaONGazSALTbaEEbaHELLbaILKbaPEECHazTANNED ",
   "LEATHERbaOOTHbaURTLEazWINDanHOKEanITYaoVILIANanLIFFaoOTHESanOWamDEATHanIVINATIONanOGamEAT ",
   "ONEaqTHREEarWOanWEanYEamFIREanOOTamGHOSTanRASS ONEasTHREEatWOamHANDanEADapRT ONEasTWOanORN",
   "amJ-SIMPLIFIED DRAGONazEVENazTOOTHbaURTLEanADEamKNIFE ONEasTWOamLAME FOURarONEarTHREEasWOa",
   "nONG ONEarTWOamMEATaoSHanOONaoRTARaoTHERaoUND ONEasTWOamNET FOURaqONEaqTHREEarWOamOLDamPAW",
   " ONEaqTWOanERSONamRAINaoMaoPanEPEATamSEALaoCOND ONEatTHREEauWOanHEEPanILKaoMPLIFIED HALF T",
   "REE TRUNKayORNaxWALKayHEATaxYELLOWanMALL ONEasTWOanNAKEaoOUT ONEasTWOanPIRIT ONEatTWOanUNa",
   "mTABLEanHREADanIGERanURTLEamWALK ONEarTWOaoTER ONEasTWOanEST ONEarTWOaeSTROKE BXGalDalHamG",
   "amPanWGamXWGamZanGanTanWaoGanZaoPaoZapGalNalPamDamGamZalQalSamGamPamTamWanGanZamZanWGanZal",
   "TamNalWGalXGabLAMSHELL MOBILE PHONEadPPER BOARDafING HANDS SIGNadSSICAL BUILDINGacEAR SCRE",
   "EN SYMBOLacINKING BEER MUGSajGLASSESadPBOARDacOCK FACE EIGHT OCLOCKaq-THIRTYamLEVEN OCLOCK",
   "ar-THIRTYalFIVE OCLOCKap-THIRTYamOUR OCLOCKap-THIRTYalNINE OCLOCKap-THIRTYalONE OCLOCKao-T",
   "HIRTYalSEVEN OCLOCKaq-THIRTYamIX OCLOCKao-THIRTYalTEN OCLOCKao-THIRTYamHREE OCLOCKaq-THIRT",
   "YamWELVE OCLOCKar-THIRTYanO OCLOCKao-THIRTYafWISE CLOSED CIRCLE ARROWalONTOUR INTEGRALakDO",
   "WNWARDS AND UPWARDS OPEN CIRCLE ARROWSakGAPPED CIRCLE ARROWakINTEGRALakOPEN CIRCLE ARROWak",
   "RIGHT AND LEFT SEMICIRCLE ARROWSapWARDS AND LEFTWARDS OPEN CIRCLE ARROWScb WITH CIRCLED ON",
   "E OVERLAYakTOP SEMICIRCLE ARROWalRIANGLE-HEADED OPEN CIRCLE ARROWadSE UPafD BOOKahINTERSEC",
   "TION WITH SERIFSahLOCK WITH KEYahMAILBOX WITH LOWERED FLAGauRAISED FLAGahSUBSETan OR EQUAL",
   " TOajPERSETap OR EQUAL TOahUMBRELLAaiNION WITH SERIFSay AND SMASH PRODUCTadUDaf WITH LIGHT",
   "NINGalRAINalSNOWalTORNADOadWN FACEabOATacCKROACHaeTAIL GLASSadONUTacFFINacINacLLISION SYMB",
   "OLadONaf EQUALSagSIGNacMBINING ACUTE ACCENTaw BELOWaqTONE MARKap-GRAVE-ACUTEaqMACRONalLMOS",
   "T EQUAL TO ABOVEbaBELOWalNNUITY SYMBOLamTICLOCKWISE ARROW ABOVEayRING OVERLAYalSTERISK ABO",
   "VEatBELOWakBINDU BELOWalREVEap BELOWap-MACRONamIDGE ABOVEarBELOWakCANDRABINDUamRONap BELOW",
   "alEDILLAalIRCUMFLEX ACCENTbb BELOWalLOCKWISE ARROW ABOVEauRING OVERLAYalOMMA ABOVEav RIGHT",
   "aqBELOWamNJOINING MACRONbb BELOWalYRILLIC DASIA PNEUMATAatHUNDRED MILLIONS SIGNbbTHOUSANDS",
   " SIGNatKAVYKAatLETTER AbaBEbbIG YUSbaCHEbaDEbbJERVbaEFbbLbbMbbNbbRbbSbc-TEbaFITAbaGHEbaHAb",
   "cRD SIGNbaIbbEbbOTIFIED AbjBIG YUSbjEbaKAbaLITTLE YUSbaMONOGRAPH UKbaObbMEGAbaPEbaSHAbcCHA",
   "bbOFT SIGNbaTEbbSEbaUbbKRAINIAN IEbaVEbaYATbbERUbbIbbUbaZEbbHEatMILLIONS SIGNatPALATALIZAT",
   "IONavYEROKauOKRYTIEauSILI PNEUMATAatTEN MILLIONS SIGNauHOUSAND MILLIONS SIGNauITLOay LEFT ",
   "HALFazRIGHT HALFatVZMETakDELETION MARKamVANAGARI DIGIT EIGHTbbFIVEbcOURbbNINEbbONEbbSEVENb",
   "cIXbbTHREEbcWObbZEROavLETTER AbcKAbcNAbcPAbcRAbcUbcVIavSIGN AVAGRAHAalIAERESISat BELOWat-R",
   "INGalOT ABOVEat LEFTauRIGHTaoBELOWat LEFTanTED ACUTE ACCENTarGRAVE ACCENTamUBLE ACUTE ACCE",
   "NTarBREVEaw BELOWarCIRCUMFLEX ABOVEarGRAVE ACCENTarINVERTED BREVEbf BELOWarLOW LINEarMACRO",
   "Nax BELOWarOPEN MARK BELOWasVERLINEarPARENTHESES ABOVEasLUS SIGN ABOVEbbBELOWarRIGHTWARDS ",
   "ARROW BELOWatNG BELOWarTILDEaw LEFT HALFaxRIGHT HALFarVERTICAL LINE ABOVEbfBELOWbaSTROKE O",
   "VERLAYaqD CIRCUMFLEX ACCENTamWN TACK BELOWaoWARDS ARROWakENCLOSING CIRCLEba BACKSLASHauDIA",
   "MONDauKEYCAPauSCREENavQUAREauUPWARD POINTING TRIANGLEalQUALS SIGN BELOWakFERMATAalOUR DOTS",
   " ABOVEakGLAGOLITIC LETTER AZUbcBIG YUSbdUKYbcCHRIVIbcDJERVIbdOBRObcFITAbdRITUbcGLAGOLIbcHE",
   "RUbcIbdNITIAL IZHEbdOTATED BIG YUSbkSMALL YUSbdZHEbcKAKObcLJUDIJEbcMYSLITEbcNASHIbcONUbcPO",
   "KOJIbcRITSIbcSHAbeTAbdLOVObdMALL YUSbcTSIbdVRIDObcUKUbcVEDEbcYATIbdERIbfUbeSTUbdObdUbcZEML",
   "JAbdHIVETEalRANTHA DIGIT FIVEazOURayONEaySIXayTHREEazWOayZEROasLETTER AazKAazNAazPAazVIanP",
   "HEME JOINERanVE ACCENTaw BELOWaqTONE MARKap-ACUTE-GRAVEaqMACRONamEEK DIALYTIKA TONOSaqKORO",
   "NISaqMUSICAL PENTASEMEayTETRASEMEazRISEMEaqPERISPOMENIaqYPOGEGRAMMENIakHOMOTHETIC ABOVEamO",
   "K ABOVEamRNakINFINITYamVERTED BREVEay BELOWavIDGE BELOWatDOUBLE ARCH ABOVEbfBELOWalS BELOW",
   "akKATAKANA-HIRAGANA SEMI-VOICED SOUND MARKbcVOICED SOUND MARKamVYKA ABOVE LEFTaxRIGHTakLAT",
   "IN LETTER SMALL CAPITAL GblLblMblNblRaqSMALL LETTER Abe WITH DIAERESISbeEbeLPHAbeObeVbdBbe",
   "ETAbdCbe CEDILLAbdDbdEbeSHbeTHbdFbeLATTENED OPEN A ABOVEbdGbdHbdIbeNSULAR DblGblRblTbdKbdL",
   "be WITH DOUBLE MIDDLE TILDEbeONG SbdMbdNbdObe WITH DIAERESISbkLIGHT CENTRALIZATION STROKEb",
   "dPbdRbe BELOWbfROTUNDAbdSbeCHWAbdTbeURNED W BELOWbdUbe WITH DIAERESISbkLIGHT CENTRALIZATIO",
   "N STROKEbdVbdWbe BELOWbdXbdZalEFT ANGLE ABOVEavBELOWaqRROW ABOVEavBELOWauHEAD ABOVEazBELOW",
   "apHALF RING ABOVEazBELOWarRPOON ABOVEapPARENTHESIS ABOVE LEFTbbBELOW LEFTapRIGHT ARROW ABO",
   "VEbbBELOWapTACK BELOWaoWARDS ARROW OVERLAYauHARPOON WITH BARB DOWNWARDSalIGATURE LEFT HALF",
   "bc BELOWatRIGHT HALFbd BELOWanHT CENTRALIZATION STROKE BELOWalONG DOUBLE SOLIDUS OVERLAYap",
   "SOLIDUS OVERLAYaqTROKE OVERLAYapVERTICAL LINE OVERLAYamW LINEakMACRONaq BELOWarLEFT HALFba",
   " BELOWarRIGHT HALFbb BELOWaq-ACUTEarBREVEarGRAVEalINUS SIGN BELOWakNOT TILDE ABOVEalUMBER ",
   "SIGN ABOVEakOGONEKaq ABOVEalLD PERMIC LETTER ANbcDOIbcNENOEbcSIIbcZATAalPEN MARK BELOWalVE",
   "RLINEakPALATALIZED HOOK BELOWamRENTHESES ABOVEawBELOWawOVERLAYalLUS SIGN ABOVEauBELOWakRET",
   "ROFLEX HOOK BELOWamVERSE SOLIDUS OVERLAYarD COMMA ABOVEalIGHT ARROW ABOVEawBELOWavHEAD ABO",
   "VEbbND DOWN ARROWHEAD BELOWbeUP ARROWHEAD BELOWbaBELOWaqHALF RING ABOVEbaBELOWasRPOON ABOV",
   "EaqPARENTHESIS ABOVE RIGHTbcBELOW RIGHTaqTACK BELOWapWARDS HARPOON WITH BARB DOWNWARDSamNG",
   " ABOVEapBELOWapOVERLAYakSEAGULL BELOWalHORT SOLIDUS OVERLAYarTROKE OVERLAYaqVERTICAL LINE ",
   "OVERLAYalNAKE BELOWalQUARE BELOWasRACKETS ABOVEalTRONG CENTRALIZATION STROKE BELOWalUSPENS",
   "ION MARKakTHREE DOTS ABOVEalILDEap BELOWaqLEFT HALF BELOWaqOVERLAYaqRIGHT HALF BELOWalRIPL",
   "E ACUTE ACCENTarDOTarUNDERDOTalURNED COMMA ABOVEakUP TACK ABOVEasBELOWamWARDS ARROW BELOWa",
   "lR ABOVEalS ABOVEakVERTICAL LINE ABOVEayBELOWatTILDEakWIDE BRIDGE ABOVEapINVERTED BRIDGE B",
   "ELOWamGGLY LINE BELOWakX ABOVEamBELOWal-X BELOWakZIGZAG ABOVEarBELOWadETadMAaeERCIAL ATalM",
   "INUS SIGNadPASSaeLEMENTaeOSITION SYMBOLaeRESSIONacNFETTI BALLaeOUNDED FACEaeUSED FACEadGRU",
   "ENT WITH DOT ABOVEadICAL TAPERadJUNCTIONadSTRUCTION SIGNanWORKERadTAINS AS MEMBERamNORMAL ",
   "SUBGROUPbb OR EQUAL TOajWITH LONG HORIZONTAL STROKEaoOVERBARaoVERTICAL BAR AT END OF HORIZ",
   "ONTAL STROKEaeINUOUS UNDERLINE SYMBOLaeOUR INTEGRALaeROL KNOBSaiSEQUENCE INTRODUCERadVENIE",
   "NCE STOREacOKED RICEaeIEafNGacPTIC CAPITAL LETTER AKHMIMIC KHEIaxLFAawBOHAIRIC KHEIawCROSS",
   "ED SHEIayYPTOGRAMMIC EIEbkGANGIAbkNIbkSHEIawDALDAaxEIaxIALECT-P ALEFbgHORIbgKAPAbgNIawEIEa",
   "wFEIaxIawGAMMAayNGIAawHATEaxORIawIAUDAawKAPAaxHEIayIaxSIawL-SHAPED HAaxAULAawMIawNIawOaxLD",
   " COPTIC AINbhDJAbhESHbhGANGIAbhHAbjTbiEIbiORIbhOOUbhSHEIbjIMAbaNUBIAN NGIbiYIbhSHIMAbhWAUa",
   "xOUawPIaxSIawROawSAMPIaxHEIayIMAaxIMAaxOUawTAUaxHETHEawUAawVIDAawZATAaiOMBINING NI ABOVEar",
   "SPIRITUS ASPERbaLENISahEPACT DIGIT EIGHTatFIVEauOURatNINEatONEatSEVENauIXatTHREEauWOanNUMB",
   "ER EIGHT HUNDREDazYauFIFTYawVE HUNDREDavORTYawUR HUNDREDauNINE HUNDREDayTYauONE HUNDREDauS",
   "EVEN HUNDREDazTYavIX HUNDREDaxTYauTENavHIRTYawREE HUNDREDavWENTYawO HUNDREDanTHOUSANDS MAR",
   "KahFRACTION ONE HALFaiULL STOPahMORPHOLOGICAL DIVIDERahOLD NUBIAN DIRECT QUESTION MARKasFU",
   "LL STOPasINDIRECT QUESTION MARKasVERSE DIVIDERahSMALL LETTER AKHMIMIC KHEIavLFAauBOHAIRIC ",
   "KHEIauCROSSED SHEIawYPTOGRAMMIC EIEbiGANGIAbiNIbiSHEIauDALDAavEIavIALECT-P ALEFbeHORIbeKAP",
   "AbeNIauEIEauFEIavIauGAMMAawNGIAauHATEavORIauIAUDAauKAPAavHEIawIavSIauL-SHAPED HAavAULAauMI",
   "auNIauOavLD COPTIC AINbfDJAbfESHbfGANGIAbfHAbhTbgEIbgORIbfOOUbfSHEIbhIMAayNUBIAN NGIbgYIbf",
   "SHIMAbfWAUavOUauPIavSIauROauSAMPIavHEIawIMAavIMAavOUauTAUavHETHEauUAauVIDAauZATAaiYMBOL KA",
   "IapHI ROaoMI ROaoPI ROaoSHIMA SIMAapTAUROSaoTAU ROadYLEFT SYMBOLaeRIGHT SIGNacRALadNISH VE",
   "RSE DIVIDERadRESPONDS TOacUCH AND LAMPadNTERBOREahSINKafING ROD TENS DIGIT EIGHTayFIVEazOU",
   "RayNINEayONEaySEVENazIXayTHREEazWOanUNIT DIGIT EIGHTayFIVEazOURayNINEayONEaySEVENazIXayTHR",
   "EEazWOadPLE WITH HEARTacWad FACEabRacABacEDIT CARDadSCENT MOONacICKETah BAT AND BALLacOCOD",
   "ILEadISSANTadSS MARKagOF JERUSALEMajLORRAINEagPATTY WITH LEFT CROSSBARarRIGHT CROSSBARahOM",
   "MEEam WITH HALF-CIRCLE BELOWafED FLAGSaiNEGATIVE SQUARED LATIN CAPITAL LETTER PaiSWORDSafI",
   "NG LANESadWNacUTCHadZEIRO SIGNacYING CAT FACEahFACEadSTAL BALLabSIabUBE ROOTacCUMBERacNEIF",
   "ORM NUMERIC SIGN EIGHT ASHbdDISHbdGESH2bdSHAR2bdUbe VARIANT FORMbdVARIANT FORM USSUbu3ayLA",
   "MITE FIFTYbgORTYbfONE THIRDbfTWO THIRDSaxFIVE ASHbf TENUbcBAN2bg VARIANT FORMbdURUbcDISHbc",
   "GESH2bgUbcSHAR2bgUbdIXTHS DISHbcUbd VARIANT FORMayOUR ASHbf TENUbcBAN2bg VARIANT FORMbdURU",
   "bcDISHbcGESH2bgUbcSHAR2bgUbcUbd VARIANT FORMbcVARIANT FORM LIMMUbu AbvBbu4axNIGIDAESHbdMIN",
   "azNE ASHbcDISHbcGESH2bcSHAR2bcUbd VARIANT FORMbcVARIANT FORM ILIMMUbv Abv3bv4axOLD ASSYRIA",
   "N ONE QUARTERboSIXTHayNE BAN2bcURUbbEIGHTH ASHbcSHE3bbGESH2bfUbbHALF GURbbQUARTER ASHbjGUR",
   "bbSHARUbbTHIRD DISHbhVARIANT FORM AaxSEVEN ASHbdDISHbdGESH2bdSHAR2bdUbe VARIANT FORMbdVARI",
   "ANT FORM IMIN AbvBbu3ayHAR2 TIMES GAL PLUS DISHbsMINayIX ASHbe TENUbbDISHbbGESH2bbSHAR2bbU",
   "bc VARIANT FORMbbVARIANT FORM ASH9axTHREE ASHbg TENUbdBAN2beURUbh VARIANT FORMbdDISHbdGESH",
   "2bhUbdSHAR2bi VARIANT FORMbhUbi VARIANT FORMbdVARIANT FORM ESH16bt21ayWO ASHbe TENUbbBAN2b",
   "cURUbbESHE3bbGESH2bfUbbSHAR2bfUbbTHIRDS DISHbiVARIANT FORM AakPUNCTUATION SIGN DIAGONAL CO",
   "LONbkQUADCOLONbkTRICOLONbbOLD ASSYRIAN WORD DIVIDERbbVERTICAL COLONakSIGN Aaq TIMES AaxBAD",
   "axGAN2 TENUaxHAaxIGIaxLAGAR GUNUaxMUSHaxSAGaq2aqBar GUNUasTIMES ASH2ayDUN3 GUNUayGALbaN2 T",
   "ENUayHAayIGI GUNUazMINayLAGABayNUNbb TENUaySHESHbaU2ayU PLUS U PLUS Uar2as TIMES AazBALAGa",
   "zGAN2 TENUazME PLUS ENazSHA3azTAK4aqDar TIMES ESH2aqKar TIMES ERIN2aySHITA PLUS GISHaqLar ",
   "TIMES ALayDIM2ayGISHayHAayKAD3azIaySHEayUSHarANarEPHaqMARat TIMES KUGbaSHEaqNar OVER ANasP",
   "LUS NAGA OPPOSING AN PLUS NAGAbcSQUAREDasTHREE TIMESarSHEaqPINaqRADat TIMES KURarKABaqSAL2",
   "arHas KABA TENUatOVER ASH OVER ASHbk CROSSING ASH OVER ASH OVER ASHbcTUG2 OVER TUG2 TUG2 O",
   "VER TUG2 PAPatZIDA TENUas2asGABapBAarDas TIMES DISH TENUarG3arHAR2av TIMES AB2bcNIbcZAarLa",
   "s OVER BALasAGarRasA2aqIar TIMES AayGARayIGI GUNUaqUar CROSSING BUasOVER BU ABbaTIMES NA2b",
   "aUNarLUGau OVER BULUGarRas2apDAar TIMES TAK4arGas KISIM5 TIMES A PLUS MASHbhMARbgBALAGbhIb",
   "gGAbi PLUS MASHbhIbiR2bhUDbgHAbgIRbi PLUS LUbgKAKbgLAbhUbi PLUS MASH2biMbgNEbgPAP PLUS PAP",
   "bgSIbgTAK4bgU2 PLUS GIR2boMASHbhSHatTIMES KURas3arMarRasA3at4aqIarBarMas TIMES IGIazSHEazU",
   " U Uas2at TIMES UDarNas KASKAL U GUNU DISHarSHat PLUS SHUaqUar GUNUasOVER DUasSHESHIGarBas",
   " TIMES ESH2azSHEas2arGas TIMES ANSHEbaSHbc AT LEFTazDINbaUNazERIN2azGAbaIbbR2 GUNUbbSHazHA",
   "baIazIGI GUNUazKASKALbaURbbSHU2bf PLUS KASKALazLAK-020bbMbc TIMES KURbaUH PLUS GISHazMASHb",
   "aESbaIazNIazPIazSHEbaI GUNUasUDarHarNas3at GUNUay GUNUas4arR2apEaq OVER E NUN OVER NUNarTI",
   "MES PAPaq2ar TIMES A PLUS HA PLUS DAayGARayKURayMIayPAPaySALazHEayUaqDINaqGIRaqLaqNar CROS",
   "SING ENasOPPOSING ENasSQUAREDasTIMES GAN2bc TENUayMEaqRENarIN2au XaqSH2at CROSSING ESH2aqZ",
   "ENat SHESHIG TIMES ASHbiHIbiIGI GUNUbiLAbkLbiMEbkSbiSUauTIMES Abb PLUS LALbk TIMES LALbbNb",
   "aBADbaDUN3 GUNUbj GUNUbaGUDbaHAbc GUNUbaIGI GUNUbaKASKALbg SQUAREDbbU3baLAbcL TIMES LALbbI",
   "bbUbaSHEbbUbaU2bbDapGAar GUNUar2as OVER GA2atTIMES A PLUS DA PLUS HAbgHAbgIGIbaB2 TENU PLU",
   "S TABbaNbb PLUS KAK PLUS AbaSHbc2bd PLUS GALazBADbbHAR2bbR PLUS RAbaURbc PLUS RAazDAbaIbbM",
   " GUNUbdTIMES SHEbaUBbbG TIMES IGI GUNUbjKASKALazELbb PLUS LAbaNbb TIMES GAN2 TENUbaRENazGA",
   "bbN2 TENUbbRbc PLUS DIbiNEbaIbb4bc PLUS AbbR2 PLUS SUazHA PLUS AbhLU PLUS ESH2bbLbc PLUS L",
   "AbaI PLUS LIbaUB2azIGI GUNUbaSH PLUS HU PLUS ASHazKAKbbSKALbaIDbc PLUS LALbaU3 PLUS ANbbSH",
   "U2 PLUS KASKALazLAbbMbc TIMES KURbaUHazME PLUS ENbaIbaUSHazNEbb PLUS E2bhGIbaUNbc OVER NUN",
   "azPAazSALbbRbaHEbc PLUS TURbbIDbcMbaUMazTAK4azUbaDbb PLUS DUazZIZ2arBAat CROSSING GABAauRO",
   "TATED NINETY DEGREESarDas OVER GAD GAR OVER GARarLas GAD OVER GAD GAR OVER GARasAMarMarNas",
   "2at CROSSING GAN2auOVER GAN2auTENUarRas3arSHANaqE22arSHTINaw TIMES KURbdUaqIar CROSSING GI",
   "asTIMES EayUar4as CROSSING GI4atOVER GI4arDIMarGarR2at GUNUas3at TIMES A PLUS IGIbaGAN2 TE",
   "NUbaIGIbaLU PLUS IGIbaPAarSALasHat CROSSING GISHauTENUavIMES BADbaGISH CROSSING GISHbaTAK4",
   "aqUar CROSSING GUar2as GUNUatTIMES IGI GUNUazKAKbc TIMES IGI GUNUazNUNazSAL PLUS TUG2arDas",
   " OVER GUD LUGALatPLUS GISH TIMES TAK4atTIMES A PLUS KURazKURarLarMas TIMES SHEarRas7asUNat",
   "SHapHAar GUNUasTENUaw GUNUarLaqIar TIMES ASHbb OVER HI TIMES ASHbb2ayBADayDISHayGADayKINay",
   "NUNaySHEayUaqUarB2at TIMES ANbaHALbaKASKALbaLISHbaUDarL2arSHapIaq AaqBaqDIMat OVER IDIM BU",
   "RbeSQUAREDaqGarIas DIBatGUNUatOVER IGI SHIR OVER SHIR UD OVER UDatRIaqLar TIMES GAN2 TENUa",
   "r2aqMar CROSSING IMasOPPOSING IMasSQUAREDasTIMES TAK4arINaqNaqRaqSHapKAar TIMES AazDba PLU",
   "S KU3azNSHEazSH2bb3ayBADbaLAGbaRazIazUayERIN2azSH2ayGAbaLbaN2 TENUbaRbb PLUS SHA3 PLUS Aaz",
   "IbaR2baSHbc CROSSING GISHbdPLUS SARazUbaDbaR7ayHI TIMES ASH2ayIGIazMayKAbaKazIbaDayLIazUba",
   "MayMEba PLUS DUbgGIbgTEazIba PLUS NUNUZayNEazUNayPAazIayRUaySAbaRazHAbaEbaIDbaUbbLazIGazUH",
   "URayTARazUayUaz U Uaz2azDazMUM TIMES PAazRba2azSHayZIar2as CROSSING KA2arBarD2as3as4as5at ",
   "OVER KAD5arKas TIMES IGI GUNUarLas CROSSING KALatTIMES BADarM2as4arP ELAMITEarSKALav LAGAB",
   " TIMES U OVER LAGAB TIMES UawOVER KASKAL LAGAB TIMES U OVER LAGAB TIMES UaqESH2aqIar TIMES",
   " BADayUazDarDarNarSALasHasIM5av OVER KISIM5aqUar OVER HI TIMES ASH2 KU OVER HI TIMES ASH2a",
   "r3ar4as VARIANT FORMar7arLas GUNUarNarRas OPPOSING KURarSHU2aqWU318apLAarGABau SQUAREDavTI",
   "MES Abc PLUS DA PLUS HAbiGARbiLALbcLbcNbcSH ZIDA TENUbbBADbcIbbDARbbENbbGAbdRbcIbcUDbe PLU",
   "S GUDbbHAbdLbcI TIMES NUNbbIGI GUNUbcMbd PLUS HAbjLUbbKIbdNbcU3bdLbe PLUS HI PLUS AbbLAGAB",
   "bcISHbcUbdLbbMEbd PLUS ENbcUSHbbNEbbSHE PLUS SUMbdITA PLUS GISH PLUS ERIN2brTENUbdU2bf PLU",
   "S SHU2bcUMbbTAGbdK4bcE PLUS A PLUS SU PLUS NAbbUbc PLUS AbiU PLUS Ubc2 PLUS ASHbcDbcSHbbZU",
   " OVER ZUatRau GUNUaz OVER LAGAR GUNU SHEavTIMES SHEbe PLUS SUMarHSHUarK-003au21av5au30au50",
   "av1au62au79 OVER LAK-079 GUNUau80av1 OVER LAK-081au92at130au42at210av9au20av5av8au38au65av",
   "6at343av7av8au83av4au90at441av9aw TIMES GUbdIGIbdPAP PLUS LU3bmPAP PLUS LU3bdU2 PLUS BAau5",
   "0av7au70au83au90av2av3av5at550at608au17aw TIMES ASHbdBADbdDUN3 GUNU GUNUbdKU3bdLAbdTARbeEb",
   "dU2beDbeRUDAau36au48aw TIMES DUBbdGAbdIGIbg GUNUbdNIbdPAP PLUS PAP PLUS LU3bdSHESH PLUS KI",
   "bdUDbeRUDAat724au49arLas TIMES LALarMas TIMES KURbc PLUS RUaqIarLarMMU2arSHaqUar TIMES BAD",
   "ar2as CROSSING LU2atGUNU TIMES ASHatOPPOSING LU2atSHESHIGba TIMES BADauQUAREDatTENUauIMES ",
   "ALazBADazDISHazESH2bd PLUS LALbeTENUazGAN2 TENUazHALbaI TIMES BADazIMazKAD2bc3bd PLUS ASHb",
   "aIazLA PLUS ASHbbGABazME PLUS ENazNEbaUazPAPbc PLUS PAP PLUS LU3azSHUbaI PLUS ASHbbK2 PLUS",
   " BUazTAK4baUG2ar3arGALau OPPOSING LUGALawVER LUGALavSHESHIGarHarLarMas OVER LUMbb GAR OVER",
   " GARapMAar GUNUasTIMES TAK4ar2arHarRarSHat2aqEarSasHaqIar PLUS ZA7arNaqUar OVER MUarGas GU",
   "NUarNSUBarRGU2arSHat CROSSING MUSHauOVER MUSHbd TIMES A PLUS NAbkGAbkKAKauTIMES AbaKURbaZA",
   "at3au GUNUavTIMES Abc PLUS DIbbDIbbZAapNAar2ar4arGAat INVERTEDauOPPOSING NAGAauTIMES SHU T",
   "ENUatRarMas NUTILLUas2aqEar SHESHIGasTIMES AayUDaqIar TIMES Ear2arMas TIMES GAN2 TENUbbR P",
   "LUS GAN2 TENUarNas9asDA2av TIMES ANbdSHbf PLUS ASHbcBALbcDIM GUNUbcGIbeSHbdUDbeLbcHIbcKESH",
   "2bcLAK-050bcMASHbdE PLUS GAN2 TENUbcNEbdUNbcPAP PLUS PAPbcSHEbf PLUS A ANbmSHbo PLUS ASHbc",
   "Ubd PLUS Ubd2 PLUS ASHbdRUDAbdSHarSAGaqUar11at OVER NU11 BUR OVER BURauROTATED NINETY DEGR",
   "EESauTENUarNas CROSSING NUNbf LAGAR OVER LAGARatLAGAR TIMES GARbfMASHbfSALbi OVER NUN LAGA",
   "R TIMES SALbfUSHatOVER NUNatTENUasUZau AB2 TIMES ASHGABbfBIbfDUGbfGUDbfIGI GUNUbfKAD3bfLAb",
   "fNEbfSILA3bfU2avKISIM5 TIMES BIbk UapPAarDarNarPaqESH2au ASTERISKaqIar CROSSING PIasTIMES ",
   "AazBayBIazUayEayIazBayUaz2arR2asIGau OPPOSING PIRIGavTIMES KALbbUDbbZAapRAarBaqIaqUapSAarG",
   "as GUNUax TIMES HAatNUTILLUatOVER SAGatTIMES AazDUbbBazENazHAazIGI GUNUazKAKbaURazLUMazMIa",
   "zNUNazSALbaHE AT LEFTbbIDazTABbbK4azU2baBbaMbaRbaSHarLas LAGAB TIMES ASH2arNGA2arRaqHAas3a",
   "t TIMES AbaBADbaGISHbaNEbaSHU2baTURbaUbb PLUS Aas6at TENUasB6asR2arEas HUatOVER SHEbb GAD ",
   "OVER GAD GAR OVER GARbcTAB OVER TAB GAR OVER GARatPLUS HUB2ayNAM2aySARasG9asNasSHau2auLAMa",
   "rIDat TIMES AbaIMasMat TIMES AbaBALbbULUGbaDINbaGARbaIGIbd GUNUbaKUSHU2baLULbaMUGbaSALasNI",
   "GasRat OVER SHIR BUR OVER BURauTENUasTAarUas OVER INVERTED SHUas2at PLUS DUG TIMES NIazE2 ",
   "TIMES ANasBURaqIar GUNUasTIMES TAK4arGas4at OVER SIG4 SHU2arK2arLA3aqUar OVER SUarDas2arHU",
   "RarMasASHarRas9apTAar ASTERISKasGUNUasTIMES HIayMIarBas OVER TAB NI OVER NI DISH OVER DISH",
   "atSQUAREDarGas TIMES BIazGUDazSHEbbUazTUG2azUDarK4at PLUS SAGarRaqEar GUNUaqIar TENUar2arL",
   "arRas OVER TIRbb GAD OVER GAD GAR OVER GARatTIMES TAK4aqUarG2arKarMas TIMES GAN2 TENUazTHR",
   "EE DISHarRas OVER TUR ZA OVER ZAapUaq GUDarOVER U PA OVER PA GAR OVER GARaySUR OVER SURayU",
   " REVERSED OVER U REVERSEDarUas Uaq2aqBaqDar GUNUasKUSHU2asSHESHIGaz TIMES BADasTIMES BADay",
   "MIayU PLUS U PLUS Ubn GUNUarUGaqMar TIMES LAGABayMEba PLUS DAaySHA3ayUarBINarUMat TIMES KA",
   "SKALbaPAaqNar GUNUaqRar CROSSING URasSHESHIGar2as INVERTEDatTIMES A PLUS HAbgNAbaLazHAazNU",
   "NazU2bb PLUS ASHbhBIbaDar4arIas3arUas TIMES AbaSHGABazBARazDARA3baUNazGAbbLbbN2 TENUbbRbaU",
   "azHAazIGIbaMbaSHazKIazLAK-668baU3bbMazMINazPAazSHEbaIG4azTUazU PLUS GUDbaDbaRUDAasDAau TIM",
   "ES UaqSHas TIMES AazKUbbRazTAK4as2asUMXasXaqTUKIaqZ3as TIMES KASKALarUapZAar SQUARED TIMES",
   " KURasTENUar7arGarMXaqE2aqIar OVER ZIar3arBas KABA TENUarGarZ2aqUar OVER ZU PLUS SARar5as ",
   "TIMES AazTHREE DISH TENUarBURarMacP ON BLACK SQUAREaeWITH STRAWadCAKEadIDOacRLING STONEaeY",
   " BRACKET EXTENSIONagLOGICAL ANDaoORaiOPadRENCY EXCHANGEajSIGNaeY AND RICEadVED STEM PARAGR",
   "APH SIGN ORNAMENTacSTARDaeOMSacT OF MEATabYCLONEacLINDRICITYacPRIOT SYLLABLE AarEarIarJAas",
   "OarKAasEasIasOasUarLAasEasIasOasUarMAasEasIasOasUarNAasEasIasOasUarOarPAasEasIasOasUarRAas",
   "EasIasOasUarSAasEasIasOasUarTAasEasIasOasUarUarWAasEasIasOarXAasEarZAasOaeO-MINOAN SIGN CM",
   "001aw2aw4aw5aw6aw7aw8aw9av10aw1aw2axBaw3aw5aw7aw9av21aw3aw4aw5aw6aw7aw8aw9av30aw3aw4aw5aw6",
   "aw7aw8aw9av40aw1aw4aw6aw7aw9av50aw1aw2aw3aw4aw5aw6aw8aw9av60aw1aw2aw3aw4aw6aw7aw8aw9av70aw",
   "1aw2aw3aw4aw5axBaw6aw8aw9av80aw1aw2aw3aw4aw5aw6aw7aw8aw9av90aw1aw2aw4aw5aw6aw7aw8aw9au100a",
   "w1aw2aw3aw4aw5aw7aw8aw9av10aw2aw4au301aw2acRILLIC CAPITAL LETTER Aaz WITH BREVEbfDIAERESIS",
   "azBKHASIAN CHEbl WITH DESCENDERbiDZEbiHAazLEUT KAayBARRED Obg WITH DIAERESISbaSHKIR KAazEa",
   "zIG YUSbaNOCULAR OazLENDED YUSazROAD OMEGAazYELORUSSIAN-UKRAINIAN IayCCHEazHEbb WITH DESCE",
   "NDERbiIAERESISbhVERTICAL STROKEazLOSED LITTLE YUSazROSSED OayDCHEazEazJEbbRVazOUBLE MONOCU",
   "LAR ObfOazWEazZEbbLObaHEbaWEbaZEbbHEayEaz WITH DIAERESISazFazLba WITH DESCENDERbgHOOKbgMID",
   "DLE HOOKbgTAILazMba WITH TAILazNba WITH DESCENDERbgHOOKbgLEFT HOOKbgMIDDLE HOOKbgTAILazRba",
   " WITH TICKazSba WITH DESCENDERayFITAayGHEbb WITH DESCENDERbhMIDDLE HOOKbhSTROKEbn AND HOOK",
   "bhUPTURNazJEayHAba WITH DESCENDERbgHOOKbgSTROKEbaRD SIGNazWEayIaz WITH DIAERESISbfGRAVEbfM",
   "ACRONazEba WITH BREVEbgGRAVEazObaTAbbIFIED AbhBIG YUSbhCLOSED LITTLE YUSbhEbhLITTLE YUSbhY",
   "ATazZHITSAbf WITH DOUBLE GRAVE ACCENTayJEayKAba WITH DESCENDERbgHOOKbgSTROKEbgVERTICAL STR",
   "OKEazHAKASSIAN CHEazJEazOMI DEbeJEbeZJEbdLJEbdNJEbdSJEbdTJEbdZJEbaPPAazSIayLHAazITTLE YUSa",
   "zJEayMONOCULAR ObcGRAPH UKayNEUTRAL YERazJEayOaz WITH DIAERESISazMEGAbd WITH TITLOazTayPEb",
   "a WITH DESCENDERbgMIDDLE HOOKazSIayQAayREVERSED DZEbhTSEbhYUbhZEazHAazOUND OMEGAaySCHWAbd ",
   "WITH DIAERESISazEMISOFT SIGNazHAbaCHAbaHAbc WITH DESCENDERbaORT Ibf WITH TAILbeUbaWEazOFT ",
   "DEbdELbeMbdSIGNazTRAIGHT Ubi WITH STROKEayTCHEazEba WITH DESCENDERbgMIDDLE HOOKazSEbaHEbaS",
   "EbaWEazWEayUaz WITH DIAERESISbgOUBLE ACUTEbfMACRONazKbaRAINIAN IEayVEayWEayYAbaEbaTazERUbc",
   " WITH BACK YERbiDIAERESISazIazNazUayZEba WITH DESCENDERbhIAERESISbaMLYAazHEbb WITH BREVEbh",
   "DESCENDERbiIAERESISbaWEasIGATURE A IEbaEN GHEbaTE TSEajKAVYKAajLETTER MULTIOCULAR OaqPALOC",
   "HKAaqSMALL CAPITAL ELajPAYEROKajSMALL LETTER Aax WITH BREVEbdDIAERESISaxBKHASIAN CHEbj WIT",
   "H DESCENDERbgDZEbgHAaxLEUT KAawBARRED Obe WITH DIAERESISaySHKIR KAaxEaxIG YUSayNOCULAR Oax",
   "LENDED YUSaxROAD OMEGAaxYELORUSSIAN-UKRAINIAN IawCCHEaxHEaz WITH DESCENDERbgIAERESISbfVERT",
   "ICAL STROKEaxLOSED LITTLE YUSaxROSSED OawDCHEaxEaxJEazRVaxOUBLE MONOCULAR ObdOaxWEaxZEazLO",
   "ayHEayWEayZEazHEawEax WITH DIAERESISaxFaxLay WITH DESCENDERbeHOOKbeMIDDLE HOOKbeTAILaxMay ",
   "WITH TAILaxNay WITH DESCENDERbeHOOKbeLEFT HOOKbeMIDDLE HOOKbeTAILaxRay WITH TICKaxSay WITH",
   " DESCENDERawFITAawGHEaz WITH DESCENDERbfMIDDLE HOOKbfSTROKEbl AND HOOKbfUPTURNaxJEawHAay W",
   "ITH DESCENDERbeHOOKbeSTROKEayRD SIGNaxWEawIax WITH DIAERESISbdGRAVEbdMACRONaxEay WITH BREV",
   "EbeGRAVEaxOayTAazIFIED AbfBIG YUSbfCLOSED LITTLE YUSbfEbfLITTLE YUSbfYATaxZHITSAbd WITH DO",
   "UBLE GRAVE ACCENTawJEawKAay WITH DESCENDERbeHOOKbeSTROKEbeVERTICAL STROKEaxHAKASSIAN CHEax",
   "JEaxOMI DEbcJEbcZJEbbLJEbbNJEbbSJEbbTJEbbZJEayPPAaxSIawLHAaxITTLE YUSaxJEaxONG-LEGGED DEaw",
   "MONOCULAR ObaGRAPH UKawNARROW OaxEUTRAL YERaxJEawOax WITH DIAERESISaxMEGAbb WITH TITLOaxTa",
   "wPALOCHKAaxEay WITH DESCENDERbeMIDDLE HOOKaxSIawQAawREVERSED DZEbfTSEbfYUbfZEaxHAaxOUND OM",
   "EGAbbED VEawSCHWAbb WITH DIAERESISaxEMISOFT SIGNaxHAayCHAayHAba WITH DESCENDERayORT Ibd WI",
   "TH TAILbcUayWEaxOFT DEbbELbcMbbSIGNaxTRAIGHT Ubg WITH STROKEawTALL HARD SIGNbbTEbbYATaxCHE",
   "axEay WITH DESCENDERbeMIDDLE HOOKaxHREE-LEGGED TEaxSEayHEaySEayWEaxWEawUax WITH DIAERESISb",
   "eOUBLE ACUTEbdMACRONaxKayRAINIAN IEaxNBLENDED UKawVEawWEaxIDE ESawYAayEayTaxERUba WITH BAC",
   "K YERbgDIAERESISaxIaxNaxUawZEay WITH DESCENDERbfIAERESISayMLYAaxHEaz WITH BREVEbfDESCENDER",
   "bgIAERESISayWEaqIGATURE A IEayEN GHEayTE TSEajTHOUSANDS SIGNaaDAGGERag KNIFEahWITH LEFT GU",
   "ARDamRIGHT GUARDacLET SYMBOLacNCERadGOacRK SHADEagUNGLASSESacSH SYMBOLafWITH LEFT UPTURNae",
   "ED LOW LINEahOVERLINEahTRIANGLE-HEADED RIGHTWARDS ARROWacTA LINK ESCAPEabC1ac2ac3ac4acSabE",
   "AF PERSONacCIDUOUS TREEaeMAL EXPONENT SYMBOLaiSEPARATOR KEY SYMBOLadREASE FONT SIZE SYMBOL",
   "acERacGREE CELSIUSahFAHRENHEITahSIGNacLadETEadIVERY TRUCKadTA EQUAL TOacNTISTRY SYMBOL LIG",
   "HT DOWN AND HORIZONTALbq WITH CIRCLEbwTRIANGLEbwWAVEaxUP AND HORIZONTALbo WITH CIRCLEbuTRI",
   "ANGLEbuWAVEaxVERTICAL AND BOTTOM LEFTbrRIGHTbkTOP LEFTboRIGHTbkWAVEbgWITH CIRCLEblTRIANGLE",
   "acPARTMENT STOREacRELICT HOUSE BUILDINGacSCENDING NODEadERET CAPITAL LETTER AYaxBEEaxCHEEa",
   "xDEEaxEFayLayMayNazGayRaySazHayTHayWaxGAYaxHaxJEEaxKAYaxLONG AbdHbcEbcIbcObdOaxOIayWaxPEEa",
   "xSHORT AbeHbdEbdIbdObeOaxTEEayHEEaxVEEaxWUaxYEEaxZEEayHEEaiSMALL LETTER AYavBEEavCHEEavDEE",
   "avEFawLawMawNaxGawRawSaxHawTHawWavGAYavHavJEEavKAYavLONG AbbHbaEbaIbaObbOavOIawWavPEEavSHO",
   "RT AbcHbbEbbIbbObcOavTEEawHEEavVEEavWUavYEEavZEEawHEEafTag ISLANDadKTOP COMPUTERaiWINDOWac",
   "VANAGARI ABBREVIATION SIGNamCUTE ACCENTalCARETalDANDAamIGIT EIGHTarFIVEasOURarNINEarONEarS",
   "EVENasIXarTHREEasWOarZEROamOUBLE DANDAalGAP FILLERamRAVE ACCENTalHEADSTROKEalJAIN OMalLETT",
   "ER AatAatIatUatWatYasBAatBAatHAasCAauNDRA AazEazOatHAasDAatDAauDAavHAauHAatHAasEasFAasGAat",
   "GAatHAauHAatLOTTAL STOPasHAatEAVY YAasIatIasJAatHAatJAasKAatHAauHAasLAatLAauLAasMAauRWARI ",
   "DDAasNAatGAatNAauNAatYAasOatEatOEasPAatHAasQAasRAatHAatRAasSAatHAauORT AayEayOatSAasTAatHA",
   "atTAauHAasUatEatUauEasVAatOCALIC LbbLbaRbbRasYAatYAasZAatHAalOMalSIGN ANUSVARAarVAGRAHAaqC",
   "ANDRABINDUbb AVAGRAHAbcTHREEbdWObcVIRAMAaqDOUBLE CANDRABINDU VIRAMAaqHIGH SPACING DOTaqINV",
   "ERTED CANDRABINDUaqNUKTAaqPUSHPIKAaqSIDDHAMarPACING CANDRABINDUaqVIRAMAasSARGAamTRESS SIGN",
   " ANUDATTAaxUDATTAalVOWEL SIGN AAaxIaxUaxWaxYawCANDRA EbdLONG EbdOawEawIaxIawOaxEaxOEawPRIS",
   "HTHAMATRA EawSHORT EbcOawUaxEaxUayEawVOCALIC LbfLbeRbfRadICE CONTROL FOURapONEapSTRINGapTH",
   "REEaqWOabIAERESISadMETER SIGNaeOND OPERATORaiSHAPE WITH A DOT INSIDEaiTARGETaiWITH BOTTOM ",
   "HALF BLACKanLEFT HALF BLACKanRIGHT HALF BLACKanTOP HALF BLACKacE FACE-1aj2aj3aj4aj5aj6adSE",
   "L LOCOMOTIVEacFFERENCE BETWEENacGIT EIGHTal COMMAamFULL STOPagFIVEak COMMAalFULL STOPahOUR",
   "ak COMMAalFULL STOPagNINEak COMMAalFULL STOPagONEaj COMMAakFULL STOPagSEVENal COMMAamFULL ",
   "STOPahIXaj COMMAakFULL STOPagTHREEal COMMAamFULL STOPahWOaj COMMAakFULL STOPagZEROak COMMA",
   "alFULL STOPadRAM FOR EARTHaqLY HEAVENauUMANalGREATER YANGauINalHEAVENLY EARTHamUMAN EARTHa",
   "lLESSER YANGatINacMENSION ORIGINacNGBAT CIRCLED SANS-SERIF DIGIT EIGHTbhFIVEbiOURbhNINEbhO",
   "NEbhSEVENbiIXbhTHREEbiWObhZERObbNUMBER TENaiNEGATIVE CIRCLED DIGIT EIGHTbfFIVEbgOURbfNINEb",
   "fONEbfSEVENbgIXbfTHREEbgWOazNUMBER TENazSANS-SERIF DIGIT EIGHTbqFIVEbrOURbqNINEbqONEbqSEVE",
   "NbrIXbqTHREEbrWObqZERObkNUMBER TENacRECT CURRENT SYMBOL FORM TWOahHITacSABLED CARaePPOINTE",
   "D BUT RELIEVED FACEanFACEadCONTINUOUS UNDERLINE SYMBOLadGUISED FACEacTTO MARKacVES AKURU D",
   "IGIT EIGHTasFIVEatOURasNINEasONEasSEVENatIXasTHREEatWOasZEROanOUBLE DANDAamEND OF TEXT MAR",
   "KamGAP FILLERamINITIAL RAamLETTER AauAatBAauHAatCAauHAatDAauDAavHAauHAatEatGAauHAatHAatIau",
   "IatJAatKAauHAatLAauLAatMAatNAauGAauNAauYAatOatPAauHAatRAatSAauHAauSAatTAauHAauTAatUauUatVA",
   "atYAauYAatZAamMEDIAL RAatYAamPREFIXED NASAL SIGNamSIGN ANUSVARAarCANDRABINDUarHALANTAarNUK",
   "TAamVIRAMAanOWEL SIGN AAayIaxEaxIayIaxOaxUayUadIDESaeNG MASKaeSION SIGNakLASHajTIMESadORCE",
   " SYMBOLacYA LAMPacZZY FACEagSYMBOLabLEabNA DOUBLE HELIXabO NOT LITTER SYMBOLacCUMENTai WIT",
   "H PICTUREaoTEXTas AND PICTUREacDOacES NOT CONTAIN AS MEMBERauNORMAL SUBGROUPbj OR EQUALajD",
   "IVIDEap WITH REVERSED NEGATION SLASHajFORCEajPRECEDEaq OR EQUALalOVEajSUCCEEDaq OR EQUALac",
   "Gad FACEadRA ABBREVIATION SIGNagLETTER AaoAaoIaoUanBAaoHAanCAaoHAanDAaoDAapHAaoHAanEanGAao",
   "HAanHAanIaoIanJAaoHAanKAaoHAanLAanMAanNAaoGAaoNAaoYAanOanPAaoHAanRAaoRAanSAaoHAaoSAanTAaoH",
   "AaoTAapHAanUaoUanVAanYAagSIGN ANUSVARAalNUKTAalVIRAMAanSARGAagVOWEL SIGN AAasIasUarEarIasI",
   "arOarUasUarVOCALIC RbaRacLLAR SIGNadPHINacMINO TILE HORIZONTAL BACKaw-00-00bb1bb2bb3bb4bb5",
   "bb6ay1-00bb1bb2bb3bb4bb5bb6ay2-00bb1bb2bb3bb4bb5bb6ay3-00bb1bb2bb3bb4bb5bb6ay4-00bb1bb2bb3",
   "bb4bb5bb6ay5-00bb1bb2bb3bb4bb5bb6ay6-00bb1bb2bb3bb4bb5bb6amVERTICAL BACKau-00-00az1az2az3a",
   "z4az5az6aw1-00az1az2az3az4az5az6aw2-00az1az2az3az4az5az6aw3-00az1az2az3az4az5az6aw4-00az1a",
   "z2az3az4az5az6aw5-00az1az2az3az4az5az6aw6-00az1az2az3az4az5az6acNG SIGNacORacT ABOVEaeMINU",
   "SaeOPERATORaePLUSadTED CIRCLEaiROSSahFENCEahLINE FACEahOBELOSahRIGHT-POINTING ANGLEahSOLID",
   "USaiQUAREahTRANSPOSITION MARKERacUBLE ACUTE ACCENTahCIRCLED DIGIT EIGHTavFIVEawOURavNINEav",
   "ONEavSEVENawIXavTHREEawWOapNUMBER TENaiOLON EQUALaiURLY LOOPahDAGGERaiOWN TACKahEXCLAMATIO",
   "N MARKahHIGH-REVERSED-9 QUOTATION MARKaiYPHENahINTEGRALalRSECTIONahLEFT ARC GREATER-THAN B",
   "RACKETaiOGICAL ANDapORajW LINEak-9 QUOTATION MARKalREVERSED-9 QUOTATION MARKahNESTED GREAT",
   "ER-THANaoLESS-THANax WITH UNDERBARahOBLIQUE HYPHENahPLUSaiRECEDESajIMEam QUOTATION MARKahQ",
   "UESTION MARKahRIGHT ARC LESS-THAN BRACKETahSOLIDUS OPERATORaiQUARE INTERSECTIONaoUNIONaiTA",
   "CKED COMMAajROKE NOT SIGNaiUBSETajCCEEDSajPERSETajSPENSION MARKahUNIONaiP TACKahVERTICAL B",
   "ARat DOUBLE LEFT TURNSTILEbbRIGHT TURNSTILEauLEFT TURNSTILEaqLINEahWAVY OVERLINEag-ENDED M",
   "ULTIMAPahLINE EQUAL TO OR GREATER-THANayLESS-THANamSLANTED EQUAL TO OR GREATER-THANbgLESS-",
   "THANauGREATER-THAN OR EQUAL TOauLESS-THAN OR EQUAL TOahSTRUCK CAPITAL CawGAMMAawHawNawPaxI",
   "awQawRawZaoITALIC CAPITAL DavSMALL DbbEbbIbbJaoN-ARY SUMMATIONaoSMALL GAMMAauPIagD FEMALE ",
   "SIGNaiMALE SIGNaiSYMBOLadGHNUTacVE OF PEACEacWN ARROWHEADafFISH TAILafRIGHT DIAGONAL ELLIP",
   "SISafTACKaj WITH CIRCLE BELOWae-POINTING RED TRIANGLEaoSMALL RED TRIANGLEaoTRIANGLE WITH L",
   "EFT HALF BLACKbcRIGHT HALF BLACKaeWARD FACING HOOKau WITH DOTaqNOTCHED HOOKbc WITH DOTaiS ",
   "ANCORAalRROWap AND RIGHT ONE EIGHTH BLOCKaqFROM BARaqLEFTWARDS OF UPWARDS ARROWaqTO BARaqW",
   "ITH CORNER LEFTWARDSavDOUBLE STROKEavEQUILATERAL ARROWHEADavHORIZONTAL STROKEavLARGE TRIAN",
   "GLE ARROWHEADavMEDIUM TRIANGLE ARROWHEADavNOTCHED TAILavSMALL EQUILATERAL ARROWHEADbbTRIAN",
   "GLE ARROWHEADavTIP LEFTWARDSazRIGHTWARDSakBLACK ARROWaqCIRCLED WHITE ARROWakCOMPRESSED ARR",
   "OWakDASHED ARROWalOUBLE ARROWakFINGER-POST ARROWakHARPOON WITH BARB LEFT BESIDE DOWNWARDS ",
   "HARPOON WITH BARB RIGHTboUPWARDS HARPOON WITH BARB RIGHTbhFROM BARbhTO BARbgWARDSbcRIGHT F",
   "ROM BARbiTO BARbhWARDSalEAVY ARROWaqCOMPRESSED ARROWakPAIRED ARROWSakQUADRUPLE ARROWakROCK",
   "ETakSANS-SERIF ARROWalQUARED ARROWakTRIANGLE ARROWHEADas-HEADED ARROWbf LEFTWARDS OF UPWAR",
   "DS TRIANGLE-HEADED ARROWbgTO BARbgWITH BOLD SHAFTblDOUBLE HORIZONTAL STROKEblHEAVY SHAFTbl",
   "LONG TIP LEFTWARDSbuRIGHTWARDSblMEDIUM SHAFTblNARROW SHAFTblVERY HEAVY SHAFTbaDASHED ARROW",
   "baPAIRED ARROWSbaZIGZAG ARROWanPLE ARROWalWO HEADED ARROWan-HEADED ARROW WITH TRIANGLE ARR",
   "OWHEADSakWHITE ARROWav WITHIN TRIANGLE ARROWHEADakZIGZAG ARROWabRACHMA SIGNadFTING POINT R",
   "IGHTWARDS ARROWadGONag FACEacESSacIVE SLOW SIGNacOMEDARY CAMELadOLING FACEadP OF BLOODaeLE",
   "TacUM WITH DRUMSTICKSabUCKacMPLINGacPLOYAN AFFIX ATTACHED E HOOKayI HOOKayLEFT-TO-RIGHT SE",
   "CANTaySECANTayTAILbaNGENTbf HOOKapHIGH ACUTEauCIRCLEauDOTauGRAVEauLINEavONG GRAVEauTIGHT A",
   "CUTEauVERTICALbc SECANTauWAVEapLEFT HORIZONTAL SECANTaqOW ACUTEauRROWatCIRCLEatDOTatGRAVEa",
   "tLINEauONG GRAVEatTIGHT ACUTEatVERTICALbb SECANTatWAVEapMID HORIZONTAL SECANTatVERTICAL SE",
   "CANTapRIGHT HORIZONTAL SECANTajDOUBLE MARKajLETTER AarOUaqBaqDar SarHaqEarEarUaqFar NaqGar",
   " R SaqHarLaqIarEaqJar Mat SasNat SasSat WITH DOTasWITH DOTbaS INSIDE AND ABOVEaqKar MasR S",
   "arKaqLarHarONG IavUaqMar Nat SasSasWITH DOTaqNar Mat SasSasWITH DOTarASAL AawIawOawUaqOarA",
   "arOHarUarWaqPar NarERNIN AMayNaqRar SarHarOMANIAN IazUaqSar Jat SasKat RasMasNasPat RasSas",
   "Tat RasWITH DOTba BELOWarHORT IarLOAN ANawDHawEEaxHaxNawJawONaxWawUaqTar R SasSarHaqUar Na",
   "rHarIaqVarOCALIC MaqWar RarAarEIarHarIarOasWaqXarWaqYEajPUNCTUATION CHINOOK FULL STOPajSIG",
   "N O WITH CROSSajTHICK LETTER SELECTORabVDaaE-MAIL SYMBOLabAGLEacRad OF MAIZEahRICEaeWITH H",
   "EARING AIDadTHaf GLOBE AMERICASanSIA-AUSTRALIAamEUROPE-AFRICAahROUNDacST SYRIAC CROSSabDIT",
   "ORIAL CORONISabGGacYPTIAN HIEROGLYPH A001ax2ax3ax4ax5ayAax6ayAayBax7ax8ax9aw10ax1ax2ax3ax4",
   "ayAax5ax6ax7ayAax8ax9aw20ax1ax2ax3ax4ax5ax6ax7ax8ax9aw30ax1ax2ayAax3ax4ax5ax6ax7ax8ax9aw40",
   "ayAax1ax2ayAax3ayAax4ax5ayAax6ax7ax8ax9aw50ax1ax2ax3ax4ax5ax6ax7ax8ax9aw60ax1ax2ax3ax4ax5a",
   "x6ax7ax8ax9aw70avA001ay2ay3ay4ay5ay6ay7azAazBay8ay9ax10ay1ay2ay3ay4ay5ay6ay7ay8ay9ax20ay1a",
   "y2ay3ay4ay5ay6ay7ay8ay9ax30ay1ay2auB001ax2ax3ax4ax5ayAax6ax7ax8ax9avEGIN SEGMENTauC001ax2a",
   "yAayBayCax3ax4ax5ax6ax7ax8ax9aw10ayAax1ax2ax3ax4ax5ax6ax7ax8ax9aw20ax1ax2ax3ax4auD001ax2ax",
   "3ax4ax5ax6ax7ax8ayAax9aw10ax1ax2ax3ax4ax5ax6ax7ax8ax9aw20ax1ax2ax3ax4ax5ax6ax7ayAax8ax9aw3",
   "0ax1ayAax2ax3ax4ayAax5ax6ax7ax8ax9aw40ax1ax2ax3ax4ax5ax6ayAax7ax8ayAax9aw50ayAayBayCayDayE",
   "ayFayGayHayIax1ax2ayAax3ax4ayAax5ax6ax7ax8ax9aw60ax1ax2ax3ax4ax5ax6ax7ayAayBayCayDayEayFay",
   "GayHauE001ax2ax3ax4ax5ax6ax7ax8ayAax9ayAaw10ax1ax2ax3ax4ax5ax6ayAax7ayAax8ax9aw20ayAax1ax2",
   "ax3ax4ax5ax6ax7ax8ayAax9aw30ax1ax2ax3ax4ayAax6ax7ax8avND SEGMENTauF001ayAax2ax3ax4ax5ax6ax",
   "7ax8ax9aw10ax1ax2ax3ayAax4ax5ax6ax7ax8ax9aw20ax1ayAax2ax3ax4ax5ax6ax7ax8ax9aw30ax1ayAax2ax",
   "3ax4ax5ax6ax7ayAax8ayAax9aw40ax1ax2ax3ax4ax5ayAax6ayAax7ayAax8ax9aw50ax1ayAayBayCax2ax3auG",
   "001ax2ax3ax4ax5ax6ayAax7ayAayBax8ax9aw10ax1ayAax2ax3ax4ax5ax6ax7ax8ax9aw20ayAax1ax2ax3ax4a",
   "x5ax6ayAax7ax8ax9aw30ax1ax2ax3ax4ax5ax6ayAax7ayAax8ax9aw40ax1ax2ax3ayAax4ax5ayAax6ax7ax8ax",
   "9aw50ax1ax2ax3ax4auH001ax2ax3ax4ax5ax6ayAax7ax8avORIZONTAL JOINERauI001ax2ax3ax4ax5ayAax6a",
   "x7ax8ax9ayAaw10ayAax1ayAax2ax3ax4ax5avNSERT AT BOTTOM ENDblSTARTbeTOP ENDbiSTARTauK001ax2a",
   "x3ax4ax5ax6ax7ax8auL001ax2ayAax3ax4ax5ax6ayAax7ax8auM001ayAayBax2ax3ayAax4ax5ax6ax7ax8ax9a",
   "w10ayAax1ax2ayAayBayCayDayEayFayGayHax3ax4ax5ayAax6ayAax7ayAax8ax9aw20ax1ax2ayAax3ax4ayAax",
   "5ax6ax7ax8ayAax9aw30ax1ayAax2ax3ayAayBax4ax5ax6ax7ax8ax9aw40ayAax1ax2ax3ax4auN001ax2ax3ax4",
   "ax5ax6ax7ax8ax9aw10ax1ax2ax3ax4ax5ax6ax7ax8ayAayBax9aw20ax1ax2ax3ax4ax5ayAax6ax7ax8ax9aw30",
   "ax1ax2ax3ayAax4ayAax5ayAax6ax7ayAax8ax9aw40ax1ax2avL001ay2ay3ay4ay5azAay6ay7ay8ay9ax10ay1a",
   "y2ay3ay4ay5ay6ay7azAay8ay9ax20avU001ay2ay3ay4ay5ay6ay7ay8ay9ax10azAay1azAay2ay3ay4ay5ay6ay",
   "7ay8azAay9ax20ay1ay2azAauO001ayAax2ax3ax4ax5ayAax6ayAayBayCayDayEayFax7ax8ax9aw10ayAayBayC",
   "ax1ax2ax3ax4ax5ax6ax7ax8ax9ayAaw20ayAax1ax2ax3ax4ayAax5ayAax6ax7ax8ax9ayAaw30ayAax1ax2ax3a",
   "yAax4ax5ax6ayAayBayCayDax7ax8ax9aw40ax1ax2ax3ax4ax5ax6ax7ax8ax9aw50ayAayBax1avVERLAY MIDDL",
   "EauP001ayAax2ax3ayAax4ax5ax6ax7ax8ax9aw10ax1auQ001ax2ax3ax4ax5ax6ax7auR001ax2ayAax3ayAayBa",
   "x4ax5ax6ax7ax8ax9aw10ayAax1ax2ax3ax4ax5ax6ayAax7ax8ax9aw20ax1ax2ax3ax4ax5ax6ax7ax8ax9auS00",
   "1ax2ayAax3ax4ax5ax6ayAax7ax8ax9aw10ax1ax2ax3ax4ayAayBax5ax6ax7ayAax8ax9aw20ax1ax2ax3ax4ax5",
   "ax6ayAayBax7ax8ax9aw30ax1ax2ax3ax4ax5ayAax6ax7ax8ax9aw40ax1ax2ax3ax4ax5ax6auT001ax2ax3ayAa",
   "x4ax5ax6ax7ayAax8ayAax9ayAaw10ax1ayAax2ax3ax4ax5ax6ayAax7ax8ax9aw20ax1ax2ax3ax4ax5ax6ax7ax",
   "8ax9aw30ax1ax2ayAax3ayAax4ax5ax6auU001ax2ax3ax4ax5ax6ayAayBax7ax8ax9aw10ax1ax2ax3ax4ax5ax6",
   "ax7ax8ax9aw20ax1ax2ax3ayAax4ax5ax6ax7ax8ax9ayAaw30ax1ax2ayAax3ax4ax5ax6ax7ax8ax9aw40ax1ax2",
   "auV001ayAayBayCayDayEayFayGayHayIax2ayAax3ax4ax5ax6ax7ayAayBax8ax9aw10ax1ayAayBayCax2ayAay",
   "Bax3ax4ax5ax6ax7ax8ax9aw20ayAayBayCayDayEayFayGayHayIayJayKayLax1ax2ax3ayAax4ax5ax6ax7ax8a",
   "yAax9ayAaw30ayAax1ayAax2ax3ayAax4ax5ax6ax7ayAax8ax9aw40ayAavERTICAL JOINERauW001ax2ax3ayAa",
   "x4ax5ax6ax7ax8ax9ayAaw10ayAax1ax2ax3ax4ayAax5ax6ax7ayAax8ayAax9aw20ax1ax2ax3ax4ayAax5auX00",
   "1ax2ax3ax4ayAayBax5ax6ayAax7ax8ayAauY001ayAax2ax3ax4ax5ax6ax7ax8auZ001ax2ayAayBayCayDax3ay",
   "AayBax4ayAax5ayAax6ax7ax8ax9aw10ax1ax2ax3ax4ax5ayAayBayCayDayEayFayGayHayIax6ayAayBayCayDa",
   "yEayFayGayHabIGHT PETALLED OUTLINED BLACK FLORETTEahOINTED BLACK STARaoPINWHEEL STARaoRECT",
   "ILINEAR BLACK STARagSPOKED ASTERISKagTEARDROP-SPOKED PROPELLER ASTERISKafH NOTEabJECT SYMB",
   "OLabLBASAN LETTER AapBEapCEaqHEapDEaqHEapEaqIapFEapGEaqHAMMAarEaqJEapHEapIapJEapKEaqHEapLE",
   "aqLEapMEapNAaqDEaqEaqJEapOapPEapQEapREaqREapSEaqHEapTEaqHEapUapVEapXEapYapZEaqHEacECTRIC A",
   "RROWajLIGHT BULBajPLUGajTORCHaiAL INTERSECTIONadMENT OFak OPENING DOWNWARDSatUPWARDSalWITH",
   " DOT ABOVEaqLONG HORIZONTAL STROKEaqOVERBARaqTWO HORIZONTAL STROKESaqUNDERBARaqVERTICAL BA",
   "R AT END OF HORIZONTAL STROKEadPHANTadVATORacFacYMAIC LETTER ALEPHaqYINapBETHapDALETHapGIM",
   "ELapHEarTHapKAPHapLAMEDHapMEMapNUNapPEapQOPHapRESHapSADHEarMEKHaqHINapTAWaqETHapWAWapYODHa",
   "pZAYINajIGATURE ZAYIN-YODHabM DASHadQUADadSPACEacOJI COMPONENT BALDaqCURLY HAIRaqRED HAIRa",
   "qWHITE HAIRagMODIFIER FITZPATRICK TYPE-1-2bg3bg4bg5bg6acPHASIS SYMBOLadTY DOCUMENTagNESTah",
   "OTEak PADanGEagPAGEakSagSETaj WITH LEFT ARROW ABOVEapOVERBARapRIGHT ARROW ABOVEapSMALL CIR",
   "CLE ABOVEabN DASHadQUADadSPACEacD OF GUARDED AREAahLINEahMEDIUMahPROOFakTECTED AREAahSELEC",
   "TED AREAahTEXTaiRANSMISSIONat BLOCKaeWITH LEFTWARDS ARROW ABOVEacQadUIRYacTER SYMBOLacVELO",
   "PEai WITH DOWNWARDS ARROW ABOVEaoLIGHTNINGabOLacMacTabPAabQUAL AND PARALLEL TOagTO BY DEFI",
   "NITIONajOR GREATER-THANamLESS-THANamPRECEDESamSUCCEEDSafS COLONahSIGNal ABOVE LEFTWARDS AR",
   "ROWasPLUS SIGNasRIGHTWARDS ARROWasTILDE OPERATORanND SLANTED PARALLELbg WITH TILDE ABOVEam",
   "WITH BUMPY ABOVEarDOT BELOWarINFINITY BELOWarTWO DOTS ABOVE AND TWO DOTS BELOWahWITH ASTER",
   "ISKadIANGULAR TOaeVALENT TOalWITH FOUR DOTS ABOVEabRASE TO THE LEFTanRIGHTacIS FORM ONEakT",
   "WOacROR-BARRED BLACK CIRCLEatDIAMONDatSQUAREanWHITE CIRCLEatDIAMONDatSQUAREabSAacCadAPEacT",
   "IMATED SYMBOLaiSabTBacHIOPIC COLONalMBINING GEMINATION AND VOWEL LENGTH MARKbeMARKatVOWEL ",
   "LENGTH MARKamMAajDIGIT EIGHTapFIVEaqOURapNINEapONEapSEVENaqIXapTHREEaqWOajFULL STOPajNUMBE",
   "R EIGHTYaqFIFTYarORTYaqHUNDREDaqNINETYaqSEVENTYarIXTYaqTENat THOUSANDarHIRTYarWENTYajPARAG",
   "RAPH SEPARATORakREFACE COLONajQUESTION MARKajSECTION MARKalMICOLONakYLLABLE BAauAatBAavAau",
   "EavEauIauOauUatEauEatIatOauAatUatWAauEavEauIasCAauAatCAavAauEavEauHAawAavEawEavHAaxAawEaxE",
   "awIawOawUavIavOavUauIauOauUatEauEatHAavAauEavEauIauOavAauUauWAatIatOauAatUatWAasDAauAatDAa",
   "vAauEavEauHAAavEawEavIavOavUauIauOavAauUauWAatEauEatIatOauAatUatWAatZAAauEavEauIauOauUasFA",
   "auAatEauEatIatOatUatWAauEavEauIatYAasGAauAatEauEatGAavAauEavEauIauOauUauWAawAavEawEavIatIa",
   "tLOTTAL AbbAbaEbbEbaIbaObbAbaUbaWAatOauAatUauRAGE BWEEbbIazFWEEbbIazGWEbcEbbIazHHWAazKWEbc",
   "EbbIazMWEEbbIazPWEEbbIazQWEbcEbbIatWAavAauEavEauIatYAavAauEavEauIauOauUasHAauAatEauEatHAav",
   "AauEavEauIauOauUauWAavEawEavIauYAawAavEawEavIavOavUatIatOauAatUasJAauAatEauEatIatOauAatUat",
   "WAasKAauAatEauEatIatOauAatUatWAavAauEavEauIatXAavAauEavEauIauOauUauWAawAavEawEavIatYAavAau",
   "EavEauIauOauUasLAauAatEauEatIatOauAatUatWAasMAauAatEauEatIatOauAatUatWAauEavEauIatYAasNAau",
   "AatEauEatIatOauAatUatWAatYAavAauEavEauIauOavAauUauWAasPAauAatEauEatHAavAavRYNGEAL AbeAbdEb",
   "eEbdIbdObdUauEavEauIauOavAauUauWAatIatOauAatUatWAauEavEauIasQAauAatEauEatHAavAauEavEauIauO",
   "auUauWAawAavEawEavIatIatOauAatUatWAavAauEavEauIatYAavAauEavEauIauOauUasRAauAatEauEatIatOau",
   "AatUatWAatYAasSAauAatEauBATBEIT BWAbcFWAbcMWAbcPWAauEatHAavAauEavEauIauOavAauUauWAatIatOau",
   "AatSAavAauEavEauIauOauUatUatWAatZAavAauEavEauIauOauUauWAasTAauAatEauEatHAavAauEavEauIauOav",
   "AauUauWAatIatOauAatSAavAauEavEauIauOauUauWAatTHAAavEawEavIavOavUatUatWAatZAavAauEavEauIauO",
   "avAauUasVAauAatEauEatIatOatUatWAasWAauAatEauEatIatOauAatUasXAauAatEauEatIatOauAatUatWAavAa",
   "uEavEauIatYAavAauEavEauIauOauUasYAauAatEauEatIatOauAatUasZAauAatEauEatHAavAauEavEauIauOauU",
   "auWAatIatOauAatUatWAatZAavAauEavEauIauOauUajTONAL MARK CHIRETauDERETaz-HIDETavIFATauHIDETa",
   "uKENATavURTauRIKRIKauSHORT RIKRIKauYIZETajWORDSPACEacXabULER CONSTANTacRO SIGNae-CURRENCY ",
   "SIGNaePEAN CASTLEajPOST OFFICEabVERGREEN TREEabXCESSadLAMATION MARKamQUESTION MARKacPRESSI",
   "ONLESS FACEacTENDED ARABIC-INDIC DIGIT EIGHTbcFIVEbdOURbcNINEbcONEbcSEVENbdIXbcTHREEbdWObc",
   "ZEROadRATERRESTRIAL ALIENaeEMELY HEAVY FIVE SPOKED ASTERISKaqGREEK CROSSaqSALTIREarIX SPOK",
   "ED ASTERISKaqWHITE CIRCLEawSQUAREabYEadGLASSESadSaaFACE HOLDING BACK TEARSafMASSAGEafPALMa",
   "fSAVOURING DELICIOUS FOODagCREAMING IN FEARafTHROWING A KISSafWITH COLD SWEATamWBOY HATakD",
   "IAGONAL MOUTHakFINGER COVERING CLOSED LIPSakHEAD-BANDAGEakLOOK OF TRIUMPHakMEDICAL MASKalO",
   "NOCLEakNO GOOD GESTUREakOK GESTUREalNE EYEBROW RAISEDalPEN EYES AND HAND OVER MOUTHapMOUTH",
   "au AND COLD SWEATavVOMITINGakPARTY HORN AND PARTY HATalEEKING EYEalLEADING EYESakROLLING E",
   "YESakSTUCK-OUT TONGUEba AND TIGHTLY-CLOSED EYESbfWINKING EYEakTEARS OF JOYalHERMOMETERakUN",
   "EVEN EYES AND WAVY MOUTHajOUT MOUTHadSIMILE SIGNadTORYacIRYacLAFELadLEN LEAFaeING DIAGONAL",
   " CROSSING NORTH EAST ARROWbaRISING DIAGONALarIN WHITE CIRCLE IN BLACK SQUAREacMILYacRSI SY",
   "MBOLacTHER CHRISTMASacX ICONaeMACHINEabEARFUL FACEadTHERacMALE SIGNadININE ORDINAL INDICAT",
   "ORacNCERacRRIS WHEELaeYabFabIELD HOCKEY STICK AND BALLacGURE DASHahSPACEacLE CABINETafFOLD",
   "ERafSEPARATORadM FRAMESafPROJECTORacNITE PART INTEGRALacREae ENGINEagXTINGUISHERaeCRACKERa",
   "eWORK SPARKLERaiSadST PLACE MEDALagQUARTER MOONas SYMBOLatWITH FACEagSTRONG ISOLATEacSHae ",
   "CAKE WITH SWIRL DESIGNaeEYEaeING POLE AND FISHadTED HAND SIGNacVE DOT MARKajPUNCTUATIONabL",
   "AG IN HOLEadMINGOadT SHOEaeBREADaeNESSacEUR-DE-LISadXED BICEPSacOPPY DISKadRAL HEARTadWERa",
   "g PLAYING CARDSaiUNCTUATION MARKacUSHED FACEacYadING DISCahENVELOPEahSAUCERabOGadGYacLDERa",
   "cNDUEacOTaePRINTSacR ALLadCESadK AND KNIFEao WITH PLATEaeED PARAGRAPHOSaeINGadM FEEDadTUNE",
   " COOKIEacUNTAINadR BALLOON-SPOKED ASTERISKafCLUB-SPOKED ASTERISKagORNER ARROWS CIRCLING AN",
   "TICLOCKWISEafDOT MARKajPUNCTUATIONafLEAF CLOVERafPOINTED BLACK STARafTEARDROP-SPOKED ASTER",
   "ISKae-PER-EM SPACEaeTH ROOTacX FACEabRACTION NUMERATOR ONEajSLASHadME WITH AN XalPICTUREal",
   "TILESacEEZING FACEadNCH FRANC SIGNajIESacIED SHRIMPacOG FACEadNT-FACING BABY CHICKagTILTED",
   " SHADOWED WHITE RIGHTWARDS ARROWadWNafING FACE WITH OPEN MOUTHabSacIabUEL PUMPacLL BLOCKaf",
   "MOON SYMBOLakWITH FACEafOUTER JOINafSTOPaeWIDTH AMPERSANDalPOSTROPHEalSTERISKakBROKEN BARa",
   "kCENT SIGNalIRCUMFLEX ACCENTalOLONamMMAaoERCIAL ATakDIGIT EIGHTaqFIVEarOURaqNINEaqONEaqSEV",
   "ENarIXaqTHREEarWOaqZEROalOLLAR SIGNakEQUALS SIGNalXCLAMATION MARKakFULL STOPakGRAVE ACCENT",
   "amEATER-THAN SIGNakHYPHEN-MINUSakLATIN CAPITAL LETTER AbfBbfCbfDbfEbfFbfGbfHbfIbfJbfKbfLbf",
   "MbfNbfObfPbfQbfRbfSbfTbfUbfVbfWbfXbfYbfZaqSMALL LETTER AbdBbdCbdDbdEbdFbdGbdHbdIbdJbdKbdLb",
   "dMbdNbdObdPbdQbdRbdSbdTbdUbdVbdWbdXbdYbdZalEFT CURLY BRACKETapPARENTHESISapSQUARE BRACKETa",
   "pWHITE PARENTHESISamSS-THAN SIGNalOW LINEakMACRONakNOT SIGNalUMBER SIGNakPERCENT SIGNalLUS",
   " SIGNalOUND SIGNakQUESTION MARKamOTATION MARKakREVERSE SOLIDUSalIGHT CURLY BRACKETaqPARENT",
   "HESISaqSQUARE BRACKETaqWHITE PARENTHESISakSEMICOLONalOLIDUSakTILDEakVERTICAL LINEakWON SIG",
   "NakYEN SIGNacNCTION APPLICATIONadERAL URNacSEabVS1ad2ad3ad4aaGAME DIEacRLICabEARae WITH HA",
   "NDLESajOUT HUBacM STONEadINIacNIEacOMETRIC PROPORTIONajALLY EQUAL TOarIVALENT TOadRGIAN CA",
   "PITAL LETTER AENazNayBANayCANazHARbaINazILayDONayENayGANazHANayHAEbaRazEazIEazOEayINayJHAN",
   "azILayKANazHARayLASayMANayNARayONayPARazHARayQARayRAEaySANazHINayTANbaRayUNayVINayWEayXANa",
   "yYNayZENazHARajLETTER AENarINarNaqBANaqCANarHARasINarILaqDONaqELIFIarNaqFIaqGANarHANaqHAEa",
   "sRatD SIGNarEarIEarOEaqINaqJHANarILaqKANarHARaqLABIAL SIGNasSaqMANaqNARaqONaqPARarHARaqQAR",
   "aqRAEaqSANarHINaqTANasRarURNED GANaqUNaqVINaqWEaqXANaqYNaqZENarHARajMTAVRULI CAPITAL LETTE",
   "R AENbiINbiNbhBANbhCANbiHARbjINbiILbhDONbhELIFIbiNbhFIbhGANbiHANbhHAEbjRbkD SIGNbiEbiIEbiO",
   "EbhINbhJHANbiILbhKANbiHARbhLABIAL SIGNbjSbhMANbhNARbhONbhPARbiHARbhQARbhRAEbhSANbiHINbhTAN",
   "bjRbiURNED GANbhUNbhVINbhWEbhXANbhYNbhZENbiHARajPARAGRAPH SEPARATORajSMALL LETTER AENaxNaw",
   "BANawCANaxHARayINaxILawDONawENawGANaxHANawHAEayRaxEaxIEaxOEawINawJHANaxILawKANaxHARawLASaw",
   "MANawNARawONawPARaxHARawQARawRAEawSANaxHINawTANayRawUNawVINawWEawXANawYNawZENaxHARacRMAN P",
   "ENNY SIGNacTA MARKabHOSTabIMEL SYMBOLacRAFFE FACEadLaeS SYMBOLabLAGOLITIC CAPITAL LETTER A",
   "ZUbaBIG YUSbbUKYbaCAUDATE CHRIVIbbHRIVIbaDJERVIbbOBRObbZELObaFITAbbRITUbaGLAGOLIbaHERUbaIb",
   "bNITIAL IZHEbbOTATED BIG YUSbiSMALL YUSbbZHEbdITSAbaKAKObaLATINATE MYSLITEbbJUDIJEbaMYSLIT",
   "EbaNASHIbaONUbbTUbaPEbbOKOJIbaRITSIbaSHAbcTAbePICbbLOVObbMALL YUSbj WITH TAILbbPIDERY HAba",
   "TROKUTASTI AbbSIbbVRIDObaUKUbaVEDEbaYATIbbERIbdUbcSTUbbObbUbaZEMLJAbbHIVETEalSMALL LETTER ",
   "AZUayBIG YUSazUKYayCAUDATE CHRIVIazHRIVIayDJERVIazOBROazZELOayFITAazRITUayGLAGOLIayHERUayI",
   "azNITIAL IZHEazOTATED BIG YUSbgSMALL YUSazZHEbbITSAayKAKOayLATINATE MYSLITEazJUDIJEayMYSLI",
   "TEayNASHIayONUazTUayPEazOKOJIayRITSIaySHAbaTAbcPICazLOVOazMALL YUSbh WITH TAILazPIDERY HAa",
   "yTROKUTASTI AazSIazVRIDOayUKUayVEDEayYATIazERIbbUbaSTUazOazUayZEMLJAazHIVETEadSS OF MILKac",
   "EICH STARKacOBE WITH MERIDIANSadVESadWING STARabOAL NETadTacGGLESacLFERacRILLAacTHIC LETTE",
   "R AHSAapIHVUSaoBAIRKANaoDAGSaoEISaoFAIHUaoGIBAaoHAGLapWAIRaoIGGWSapUJAaoJERaoKUSMAaoLAGUSa",
   "oMANNAaoNAUTHSapINE HUNDREDasTYaoOTHALaoPAIRTHRAaoQAIRTHRAaoRAIDAaoSAUILaoTEIWSapHIUTHaoUR",
   "USaoWINJAabRADUATION CAPadNTHA AU LENGTH MARKaiLETTER AaqAaqIaqUapBAaqHAapCAaqHAapDAaqDAar",
   "HAaqHAapEEapGAaqHAapHAapIaqIapJAaqHAapKAaqHAapLAaqLAapMAapNAaqGAaqNAaqYAapOOapPAaqHAapRAap",
   "SAaqHAaqSAapTAaqHAaqTAarHAapUaqUapVAaqEDIC ANUSVARAavDOUBLE ANUSVARAaqOCALIC LayLaxRayRapY",
   "AaiOMaiSIGN ANUSVARAaoVAGRAHAanCANDRABINDUaoOMBINING ANUSVARA ABOVEanNUKTAanPLUTAanVIRAMAa",
   "pSARGAaiVOWEL SIGN AAauIauUatEEatIauIatOOatUauUatVOCALIC LbcLbbRbcRadPESadVE ACCENTacEATER",
   "-THAN ABOVE DOUBLE-LINE EQUAL ABOVE LESS-THANatLESS-THAN ABOVE DOUBLE-LINE EQUALatRIGHTWAR",
   "DS ARROWatSIMILAR ABOVE LESS-THANbbOR EQUALauLANTED EQUAL ABOVE LESS-THAN ABOVE SLANTED EQ",
   "UALaoND NOT APPROXIMATEarSINGLE-LINE NOT EQUAL TOanBESIDE LESS-THANaoUT NOT EQUAL TOayIVAL",
   "ENT TOanCLOSED BY CURVEbc ABOVE SLANTED EQUALanEQUAL TO OR LESS-THANanOR APPROXIMATEaqEQUA",
   "L TOatIVALENT TOaqLESS-THANaqSLANTED EQUAL TObg WITH DOT ABOVEbv LEFTbqINSIDEaoVER EQUAL T",
   "OarLAPPING LESS-THANanSIGNanWITH CIRCLE INSIDEasDOTasQUESTION MARK ABOVEadEK ACROPHONIC AT",
   "TIC FIFTYbc STATERSbdTALENTSbeHOUSANDbl STATERSazVEbb HUNDREDbj STATERSbkTALENTSbcSTATERSb",
   "cTALENTSbdHOUSANDbk TALENTSaxONE DRACHMAbbHALFbcUNDRED STATERSbjTALENTSbbQUARTERbbTHOUSAND",
   " STATERSbkTALENTSaxTEN MNASbbSTATERSbbTALENTSbcHOUSAND STATERSarCARYSTIAN FIVE HUNDREDasYR",
   "ENAIC TWO DRACHMASarDELPHIC FIVE MNASarEPIDAUREAN FIVE HUNDREDbcTWObf DRACHMASarHERAEUM ON",
   "E PLETHRONauMIONIAN FIFTYbcONEbcTENarMESSENIAN TENarNAXIAN FIVE HUNDREDarSTRATIAN FIFTY MN",
   "ASarTHESPIAN FIFTYbcVE HUNDREDbfTHOUSANDbaONEbd HUNDREDbeTHOUSANDbaTENbbHIRTYbcREE HUNDRED",
   "bbWOasROEZENIAN FIFTYbh ALTERNATE FORMbeVEbg HUNDREDbcTENbf ALTERNATE FORMahNO TELEIAahROU",
   "RA SIGNaiTABE SIGNagBETA SYMBOLagCAPITAL DOTTED LUNATE SIGMA SYMBOLaoKAI SYMBOLaoLETTER AL",
   "PHAba WITH DASIAbl AND OXIAbu AND PROSGEGRAMMENIbqPERISPOMENIcb AND PROSGEGRAMMENIbrROSGEG",
   "RAMMENIbqVARIAbv AND PROSGEGRAMMENIbgMACRONbgOXIAbgPROSGEGRAMMENIbhSILIbl AND OXIAbu AND P",
   "ROSGEGRAMMENIbqPERISPOMENIcb AND PROSGEGRAMMENIbrROSGEGRAMMENIbqVARIAbv AND PROSGEGRAMMENI",
   "bgTONOSbgVARIAbhRACHYawRCHAIC SAMPIavBETAavCHIavDELTAavEPSILONbc WITH DASIAbn AND OXIAbsVA",
   "RIAbiOXIAbiPSILIbn AND OXIAbsVARIAbiTONOSbiVARIAawTAay WITH DASIAbj AND OXIAbs AND PROSGEG",
   "RAMMENIboPERISPOMENIbz AND PROSGEGRAMMENIbpROSGEGRAMMENIboVARIAbt AND PROSGEGRAMMENIbeOXIA",
   "bePROSGEGRAMMENIbfSILIbj AND OXIAbs AND PROSGEGRAMMENIboPERISPOMENIbz AND PROSGEGRAMMENIbp",
   "ROSGEGRAMMENIboVARIAbt AND PROSGEGRAMMENIbeTONOSbeVARIAavGAMMAavHETAavIOTAaz WITH DASIAbk ",
   "AND OXIAbpPERISPOMENIbpVARIAbgIALYTIKAbfMACRONbfOXIAbfPSILIbk AND OXIAbpPERISPOMENIbpVARIA",
   "bfTONOSbfVARIAbgRACHYavKAPPAavLAMDAavMUavNUavOMEGAba WITH DASIAbl AND OXIAbu AND PROSGEGRA",
   "MMENIbqPERISPOMENIcb AND PROSGEGRAMMENIbrROSGEGRAMMENIbqVARIAbv AND PROSGEGRAMMENIbgOXIAbg",
   "PROSGEGRAMMENIbhSILIbl AND OXIAbu AND PROSGEGRAMMENIbqPERISPOMENIcb AND PROSGEGRAMMENIbrRO",
   "SGEGRAMMENIbqVARIAbv AND PROSGEGRAMMENIbgTONOSbgVARIAaxICRONbc WITH DASIAbn AND OXIAbsVARI",
   "AbiOXIAbiPSILIbn AND OXIAbsVARIAbiTONOSbiVARIAavPAMPHYLIAN DIGAMMAawHIawIawSIavRHOay WITH ",
   "DASIAavSANawHOawIGMAavTAUawHETAavUPSILONbc WITH DASIAbn AND OXIAbsPERISPOMENIbsVARIAbjIALY",
   "TIKAbiMACRONbiOXIAbiTONOSbiVARIAbjRACHYavXIavYOTavZETAapUNATE SIGMA SYMBOLaoREVERSED DOTTE",
   "D LUNATE SIGMA SYMBOLaxLUNATE SIGMA SYMBOLaoTHETA SYMBOLagDASIAal AND OXIAaqPERISPOMENIaqV",
   "ARIAahIALYTIKA AND OXIAauPERISPOMENIauVARIAaqTONOSahRACHMA SIGNagFIVE OBOLS SIGNahOUR OBOL",
   "S SIGNagGRAMMA SIGNagINDICTION SIGNaiSTRUMENTAL NOTATION SYMBOL-1bk1bk2bk3bk4bk7bk8bk9bj2b",
   "k3bk4bk5bk6bk7bk9bj30bk2bk6bk7bk8bk9bj4bk0bk2bk3bk5bk7bk8bk9bj5bk0bk1bk2bk3bk4bj7bj8agKAI ",
   "SYMBOLaiPPA SYMBOLahORONISahYATHOS BASE SIGNagLETTER ARCHAIC KOPPAanDIGAMMAanKOPPAanSAMPIa",
   "oMALL CAPITAL GAMMAbbLAMDAbbOMEGAbbPIbcSIbbRHOaoTIGMAanYOTahITRA SIGNahOWER NUMERAL SIGNah",
   "UNATE EPSILON SYMBOLanSIGMA SYMBOLagMETRETES SIGNahUSICAL LEIMMAagNUMERAL SIGNagOBOL SIGNa",
   "hNE HALF SIGNat ALTERNATE FORMakQUARTER SIGNahUNKIA SIGNahXIAagPERISPOMENIahHI SYMBOLahI S",
   "YMBOLahROSGEGRAMMENIahSILIal AND OXIAaqPERISPOMENIaqVARIAagQUESTION MARKagREVERSED LUNATE ",
   "EPSILON SYMBOLahHO SYMBOLakWITH STROKE SYMBOLagSINUSOID SIGNahMALL DOTTED LUNATE SIGMA SYM",
   "BOLamLETTER ALPHAay WITH DASIAbj AND OXIAbs AND YPOGEGRAMMENIboPERISPOMENIbz AND YPOGEGRAM",
   "MENIboVARIAbt AND YPOGEGRAMMENIboYPOGEGRAMMENIbeMACRONbeOXIAbi AND YPOGEGRAMMENIbePERISPOM",
   "ENIbp AND YPOGEGRAMMENIbfSILIbj AND OXIAbs AND YPOGEGRAMMENIboPERISPOMENIbz AND YPOGEGRAMM",
   "ENIboVARIAbt AND YPOGEGRAMMENIboYPOGEGRAMMENIbeTONOSbeVARIAbj AND YPOGEGRAMMENIbfRACHYbeYP",
   "OGEGRAMMENIauRCHAIC KOPPAbbSAMPIatBETAatCHIatDELTAauIGAMMAatEPSILONba WITH DASIAbl AND OXI",
   "AbqVARIAbgOXIAbgPSILIbl AND OXIAbqVARIAbgTONOSbgVARIAauTAaw WITH DASIAbh AND OXIAbq AND YP",
   "OGEGRAMMENIbmPERISPOMENIbx AND YPOGEGRAMMENIbmVARIAbr AND YPOGEGRAMMENIbmYPOGEGRAMMENIbcOX",
   "IAbg AND YPOGEGRAMMENIbcPERISPOMENIbn AND YPOGEGRAMMENIbdSILIbh AND OXIAbq AND YPOGEGRAMME",
   "NIbmPERISPOMENIbx AND YPOGEGRAMMENIbmVARIAbr AND YPOGEGRAMMENIbmYPOGEGRAMMENIbcTONOSbcVARI",
   "Abh AND YPOGEGRAMMENIbcYPOGEGRAMMENIatFINAL SIGMAatGAMMAatHETAatIOTAax WITH DASIAbi AND OX",
   "IAbnPERISPOMENIbnVARIAbeIALYTIKAbm AND OXIAbrPERISPOMENIbrTONOSbrVARIAbdMACRONbdOXIAbdPERI",
   "SPOMENIbeSILIbi AND OXIAbnPERISPOMENIbnVARIAbdTONOSbdVARIAbeRACHYatKAPPAauOPPAatLAMDAatMUa",
   "tNUatOMEGAay WITH DASIAbj AND OXIAbs AND YPOGEGRAMMENIboPERISPOMENIbz AND YPOGEGRAMMENIboV",
   "ARIAbt AND YPOGEGRAMMENIboYPOGEGRAMMENIbeOXIAbi AND YPOGEGRAMMENIbePERISPOMENIbp AND YPOGE",
   "GRAMMENIbfSILIbj AND OXIAbs AND YPOGEGRAMMENIboPERISPOMENIbz AND YPOGEGRAMMENIboVARIAbt AN",
   "D YPOGEGRAMMENIboYPOGEGRAMMENIbeTONOSbeVARIAbj AND YPOGEGRAMMENIbeYPOGEGRAMMENIavICRONba W",
   "ITH DASIAbl AND OXIAbqVARIAbgOXIAbgPSILIbl AND OXIAbqVARIAbgTONOSbgVARIAatPAMPHYLIAN DIGAM",
   "MAauHIauIauSIatRHOaw WITH DASIAbcPSILIatSAMPIavNauHOauIGMAauTIGMAatTAUauHETAatUPSILONba WI",
   "TH DASIAbl AND OXIAbqPERISPOMENIbqVARIAbhIALYTIKAbp AND OXIAbuPERISPOMENIbuTONOSbuVARIAbgM",
   "ACRONbgOXIAbgPERISPOMENIbhSILIbl AND OXIAbqPERISPOMENIbqVARIAbgTONOSbgVARIAbhRACHYatXIatZE",
   "TAamREVERSED DOTTED LUNATE SIGMA SYMBOLavLUNATE SIGMA SYMBOLahUBSCRIPT SMALL LETTER BETAbd",
   "CHIbdGAMMAbdPHIbdRHOahYMBOL TAU RHOagTALENT SIGNahHETA SYMBOLaiREE OBOLS SIGNamQUARTERS SI",
   "GNahONOSahRYBLION BASE SIGNahWO OBOLS SIGNakTHIRDS SIGNagUPSILON WITH ACUTE AND HOOK SYMBO",
   "LatDIAERESIS AND HOOK SYMBOLatHOOK SYMBOLagVARIAahOCAL NOTATION SYMBOL-1bd0bd1bd2bd3bd4bd5",
   "bd6bd7bd8bd9bc2bd0bd1bd2bd3bd4bc3bc4bc5bd0bd1bd2bd3bd4bc6bc7bc8bc9agXESTES SIGNagYEAR SIGN",
   "ahPOGEGRAMMENIagZERO SIGNaeN APPLEagBOOKagHEARTagSALADacIMACING FACEadNNING CAT FACE WITH ",
   "SMILING EYESajFACEan WITH ONE LARGE AND ONE SMALL EYEatSMILING EYESauTAR EYESacOUP MARKagS",
   "EPARATORadWING HEARTabSabUARANI SIGNaeDSMANacIDE DOGadTARacJARATI ABBREVIATION SIGNajDIGIT",
   " EIGHTapFIVEaqOURapNINEapONEapSEVENaqIXapTHREEaqWOapZEROajLETTER AarAarIarUaqBAarHAaqCAarH",
   "AaqDAarDAasHAarHAaqEaqGAarHAaqHAaqIarIaqJAarHAaqKAarHAaqLAarLAaqMAaqNAarGAarNAarYAaqOaqPAa",
   "rHAaqRAaqSAarHAarSAaqTAarHAarTAasHAaqUarUaqVAarOCALIC LazLayRazRaqYAaqZHAajOMajRUPEE SIGNa",
   "jSIGN ANUSVARAapVAGRAHAaoCANDRABINDUapIRCLE NUKTA ABOVEaoMADDAHaoNUKTAaoSHADDAapUKUNaoTHRE",
   "E-DOT NUKTA ABOVEapWO-CIRCLE NUKTA ABOVEaoVIRAMAaqSARGAajVOWEL CANDRA EawOapSIGN AAavIavUa",
   "uCANDRA EbbOauEauIavIauOauUavUauVOCALIC LbdLbcRbdRacNJALA GONDI DIGIT EIGHTauFIVEavOURauNI",
   "NEauONEauSEVENavIXauTHREEavWOauZEROaoLETTER AawAawIawUavBAawHAavCAawHAavDAawDAaxHAawHAavEE",
   "avGAawHAavHAavIawIavJAawHAavKAawHAavLAawLAavMAavNAawGAavOOavPAawHAavRAavSAavTAawHAawTAaxHA",
   "avUawUavVAavYAaoOMaoSIGN ANUSVARAatVISARGAaoVIRAMAapOWEL SIGN AAbaIbaUazEEazIbaIazOOazUbaU",
   "acRMUKHI ABBREVIATION SIGNakDDAKajDIGIT EIGHTapFIVEaqOURapNINEapONEapSEVENaqIXapTHREEaqWOa",
   "pZEROajEK ONKARajIRIajLETTER AarAarIarUaqBAarHAaqCAarHAaqDAarDAasHAarHAaqEEaqFAaqGAarHAasH",
   "AaqHAaqIarIaqJAarHAaqKAarHAasHAaqLAarLAaqMAaqNAarGAarNAarYAaqOOaqPAarHAaqRAarRAaqSAarHAaqT",
   "AarHAarTAasHAaqUarUaqVAaqYAaqZAajSIGN ADAK BINDIaoBINDIaoNUKTAaoUDAATaoVIRAMAaqSARGAaoYAKA",
   "SHajTIPPIajURAajVOWEL SIGN AAavIavUauEEauIavIauOOauUavUaaHADESacIR SPACEaeCUTacLFWIDTH BLA",
   "CK SQUAREakDOWNWARDS ARROWakFORMS LIGHT VERTICALakHANGUL FILLERarLETTER AazEayCHIEUCHazIEU",
   "CayEazOazUayHIEUHayIazEUNGayKHIEUKHazIYEOKbe-SIOSayMIEUMayNIEUNbd-CIEUCbeHIEUHayOazEayPHIE",
   "UPHazIEUPbd-SIOSayRIEULbd-HIEUHbeKIYEOKbeMIEUMbePHIEUPHbfIEUPbeSIOSbeTHIEUTHaySIOSazSANGCI",
   "EUCbdKIYEOKbdPIEUPbdSIOSbdTIKEUTayTHIEUTHazIKEUTayUayWAbaEazEbaOazIayYAbaEazEbaOazIazOazUa",
   "kIDEOGRAPHIC COMMAawFULL STOPakKATAKANA LETTER AbaEbaHAbbEbbIbbObbUbaIbaKAbbEbbIbbObbUbaMA",
   "bbEbbIbbObbUbaNbbAbbEbbIbbObbUbaObaRAbbEbbIbbObbUbaSAbbEbbIbbMALL AbgEbgIbgObgTUbgUbgYAbhO",
   "bhUbbObbUbaTAbbEbbIbbObbUbaUbaWAbbObaYAbbObbUatMIDDLE DOTatSEMI-VOICED SOUND MARKatVOICED ",
   "SOUND MARKas-HIRAGANA PROLONGED SOUND MARKakLEFT CORNER BRACKETaoWARDS ARROWakRIGHT CORNER",
   " BRACKETapWARDS ARROWakUPWARDS ARROWakWHITE CIRCLEacMBURGERadMERag AND PICKalSICKLEalWRENC",
   "HadSAaeTER FACEacND WITH INDEX AND MIDDLE FINGERS CROSSEDaqFINGER AND THUMB CROSSEDaeBAGag",
   "LLaeSHAKEadGUL CHOSEONG CEONGCHIEUMCHIEUCHbcIEUCbbSIOSbcSANGCIEUCbgSIOSarHIEUCHax-HIEUHayK",
   "HIEUKHatTUEUMCHIEUCHazIEUCaySIOSazSANGCIEUCbdSIOSarIEUCav-IEUNGaqFILLERaqHIEUHav-SIOSaqIEU",
   "NGav-CHIEUCHaxIEUCawHIEUHawKIYEOKawMIEUMawPANSIOSaxHIEUPHaxIEUPawRIEULawSIOSawTHIEUTHaxIKE",
   "UTaqKAPYEOUNMIEUMayPHIEUPHazIEUPayRIEULaySSANGPIEUParHIEUKHarIYEOKaw-TIKEUTaqMIEUMav-KIYEO",
   "KawPIEUPawSIOSawTIKEUTaqNIEUNav-CIEUCawHIEUHawKIYEOKawPIEUPawSIOSawTIKEUTaqPANSIOSarHIEUPH",
   "ax-HIEUHayPIEUParIEUPav-CHIEUCHaxIEUCawHIEUHawKHIEUKHaxIYEOKawNIEUNawPHIEUPHawSIOSba-CIEUC",
   "bbKIYEOKbbPIEUPbbTHIEUTHbcIKEUTaxSANGSIOSawTHIEUTHaxIKEUTaqRIEULav-CIEUCawHIEUHawKAPYEOUNP",
   "IEUPaxHIEUKHaxIYEOKawMIEUMawNIEUNawPIEUPawSIOSaxSANGKIYEOKbbPIEUPbbTIKEUTawTIKEUTaqSIOSau-",
   "CHIEUCHawIEUCavHIEUHavIEUNGavKHIEUKHawIYEOKavMIEUMavNIEUNavPHIEUPHawIEUPba-KIYEOKavRIEULav",
   "SSANGSIOSavTHIEUTHawIKEUTarSANGCIEUCba-HIEUHavHIEUHavIEUNGavKIYEOKavNIEUNavPIEUPavRIEULavS",
   "IOSaz-PIEUPavTHIEUTHawIKEUTavYEORINHIEUHaqTHIEUTHarIKEUTaw-CIEUCaxKIYEOKaxMIEUMaxPIEUPaxRI",
   "EULaxSIOSaqYEORINHIEUHasSIEUNGahDOUBLE DOT TONE MARKahFILLERahJONGSEONG CHIEUCHasIEUCaw-PI",
   "EUPaxSSANGPIEUParHIEUHaw-MIEUMaxNIEUNaxPIEUPaxRIEULarIEUNGaw-KHIEUKHayIYEOKaxSSANGKIYEOKar",
   "KAPYEOUNMIEUMazPHIEUPHbaIEUPazRIEULasHIEUKHasIYEOKax-CHIEUCHayHIEUHayKHIEUKHayNIEUNayPIEUP",
   "ayRIEULaySIOSbc-KIYEOKarMIEUMaw-CHIEUCHayIEUCaxHIEUHaxKIYEOKaxNIEUNaxPANSIOSayIEUPbc-SIOSa",
   "xRIEULaxSIOSaySANGNIEUNbcSIOSarNIEUNaw-CHIEUCHayIEUCaxHIEUHaxKIYEOKaxPANSIOSaxRIEULaxSIOSa",
   "xTHIEUTHayIKEUTarPANSIOSay-KAPYEOUNPIEUPazPIEUPasHIEUPHay-PIEUPazSIOSazTHIEUTHasIEUPaw-CHI",
   "EUCHayIEUCaxHIEUHaxMIEUMaxPHIEUPHaxRIEULbc-PHIEUPHaxSIOSbb-TIKEUTaxTIKEUTarRIEULaw-HIEUHax",
   "KAPYEOUNPIEUPayHIEUKHayIYEOKbd-HIEUHbeSIOSaxMIEUMbc-HIEUHbdKIYEOKbdSIOSaxNIEUNaxPANSIOSayH",
   "IEUPHayIEUPbc-HIEUHbdPHIEUPHbdSIOSbdTIKEUTaxSIOSaySANGKIYEOKbcSIOSaxTHIEUTHayIKEUTbd-HIEUH",
   "axYEORINHIEUHbi-HIEUHazSIEUNGarSIOSav-CHIEUCHaxIEUCawHIEUHawKAPYEOUNPIEUPaxIYEOKawMIEUMawP",
   "ANSIOSaxIEUPawRIEULawTHIEUTHaxIKEUTasSANGCIEUCawIEUNGawKIYEOKawMIEUMawNIEUNawPIEUPawRIEULb",
   "b-KHIEUKHawSIOSba-KIYEOKbbTIKEUTawTIKEUTbc-PIEUPawYESIEUNGarTHIEUTHasIKEUTax-CHIEUCHazIEUC",
   "ayKIYEOKayPIEUPayRIEULaySIOSbc-KIYEOKayTHIEUTHarYEORINHIEUHatSIEUNGaz-HIEUHbaKHIEUKHbbIYEO",
   "KbaMIEUMbaPANSIOSbaSIOSbbSANGKIYEOKaiUNGSEONG Aas-EUatOatUasEasRAEAaw-AaxEayOaxIaxUarEasOa",
   "t-EUauOauUasUat-AauEavOavUauOauUarFILLERarIas-AauRAEAatEUatIatOau-IatUatYAav-OavEauEavOauO",
   "auUarOas-EauOatOau-IatUatYAavEauEavOasEarSSANGARAEAarUas-AauEatEO-EUatI-IatUatYEavOarWAatE",
   "asEatOasIarYAat-OauUauYOatEasEatOau-OavUavYAasIat-UasOat-AavEauEOauIauOauYAawEavEOasUat-Aa",
   "vEauEavOauIauOauUauYEawOahLETTER AapEapRAEAatEaoCHIEUCHapIEUCaoEapOapUaoHIEUHaoIapEUNGaoKA",
   "PYEOUNMIEUMawPHIEUPHaxIEUPawSSANGPIEUPapHIEUKHapIYEOKau-SIOSaoMIEUMat-PANSIOSavIEUPauSIOSa",
   "oNIEUNat-CIEUCauHIEUHauPANSIOSauSIOSauTIKEUTaoOapEaoPANSIOSapHIEUPHapIEUPat-CIEUCauKIYEOKa",
   "uSIOSay-KIYEOKazTIKEUTauTHIEUTHavIKEUTaoRIEULat-HIEUHauKIYEOKba-SIOSauMIEUMauPANSIOSavHIEU",
   "PHavIEUPaz-SIOSauSIOSauTHIEUTHavIKEUTauYEORINHIEUHaoSIOSas-CIEUCatKIYEOKatNIEUNatPIEUPatTI",
   "KEUTapSANGCIEUCatHIEUHatIEUNGatKIYEOKatNIEUNatPIEUPatSIOSatTIKEUTaoTHIEUTHapIKEUTaoUaoWAaq",
   "EapEaqOapIaoYAaqEapEaqOarRINHIEUHaqSIEUNGaw-PANSIOSaxSIOSapIapOaq-IarYAatEapUaq-IarYEatOah",
   "SINGLE DOT TONE MARKaeZHOU NUMERAL EIGHTarFIVEasOURarNINEarONEarSEVENasIXarTENasHIRTYatREE",
   "asWENTYatOadIFI ROHINGYA DIGIT EIGHTawFIVEaxOURawNINEawONEawSEVENaxIXawTHREEaxWOawZEROaqLE",
   "TTER AaxBAaxCAaxDAayDAaxFAaxGAaxHAaxJAaxKAayHAayINNA WAbdYAaxLAaxMAaxNAayGAayYAaxPAaxRAayR",
   "AaxSAayHAaxTAayTAaxVAaxWAaxYAaxZAaqMARK NA KHONNAavSAKINaqSIGN HARBAHAYavTAHALAaxNAaxSSIaq",
   "VOWEL AawEawIawOawUadUNOO LETTER AapBAapDAapGAapHAapIapKAapLAapMAapNAaqGAapPAapRAapSAapTAa",
   "pUapWAapYAaiSIGN PAMUDPODaiVOWEL SIGN IatUacPPY PERSON RAISING ONE HANDacRD DISKacTCHING C",
   "HICKadRAN LETTER ALEPHapYNaoBETHaoDALETH-RESHaoGIMELaoHEaqTHaoKAPHaoLAMEDHaoMEMaoNUNaoPEao",
   "QOPHaoSADHEaqMEKHapHINaoTAWapETHaoWAWaoYODHaoZAYNahNUMBER FIVEaoONEar HUNDREDaoTENapWENTYa",
   "bEADPHONEaeSTONEaj GRAVEYARD SYMBOLadR-NO-EVIL MONKEYaeT DECORATIONagHANDSagWITH ARROWalRI",
   "BBONalTIP ON THE LEFTadVY AMPERSAND ORNAMENTahRROW SHAFT WIDTH ONEbb HALFbcTHIRDayTWO THIR",
   "DSahSTERISKagBALLOT XahLACK CURVED DOWNWARDS AND RIGHTWARDS ARROWatUPWARDS AND RIGHTWARDS ",
   "ARROWamHEARTal-FEATHERED NORTH EAST ARROWawRIGHTWARDS ARROWawSOUTH EAST ARROWagCHECK MARKa",
   "jVRON SNOWFLAKEahIRCLEam WITH CIRCLE INSIDEasSTROKE AND TWO DOTS ABOVEamD SALTIREahONCAVE-",
   "POINTED BLACK RIGHTWARDS ARROWagDASHED TRIANGLE-HEADED RIGHTWARDS ARROWahIVISION SIGNahOLL",
   "AR SIGNaiUBLE COMMA QUOTATION MARK ORNAMENTanTURNED COMMA QUOTATION MARK ORNAMENTaiWNWARDS",
   " ARROW WITH EQUILATERAL ARROWHEADbbLARGE EQUILATERAL ARROWHEADagEIGHT POINTED BLACK STARau",
   "PINWHEEL STARauRECTILINEAR BLACK STARamSPOKED ASTERISKamTEARDROP-SPOKED PROPELLER ASTERISK",
   "ahQUALS SIGNahXCLAMATION MARK ORNAMENTaxSYMBOLagFIVE POINTED BLACK STARalSPOKED ASTERISKah",
   "OUR BALLOON-SPOKED ASTERISKagGREEK CROSSagHEART EXCLAMATION MARK ORNAMENTahORIZONTAL FILLa",
   "gINTERROBANG ORNAMENTagLARGE CIRCLEaiTIN CROSSahEFT-POINTING ANGLE BRACKET ORNAMENTbaQUOTA",
   "TION MARK ORNAMENTakWARDS ARROW WITH EQUILATERAL ARROWHEADbbLARGE EQUILATERAL ARROWHEADahI",
   "GATURE OPEN ET ORNAMENTahOW DOUBLE COMMA QUOTATION MARK ORNAMENTakSINGLE COMMA QUOTATION M",
   "ARK ORNAMENTajER RIGHT-SHADOWED WHITE RIGHTWARDS ARROWagMINUS SIGNahULTIPLICATION XagNORTH",
   " EAST ARROWarPOINTING BUDbaVINE LEAFamWEST POINTING BUDbaVINE LEAFagOPEN CENTRE CROSSahUTL",
   "INED BLACK STARahVAL WITH OVAL INSIDEagPLUS SIGNagRIGHT-POINTING ANGLE BRACKET ORNAMENTbbQ",
   "UOTATION MARK ORNAMENTalWARDS ARROWaw WITH EQUILATERAL ARROWHEADbcLARGE EQUILATERAL ARROWH",
   "EADahOUND-TIPPED RIGHTWARDS ARROWagSALTIREaiNS-SERIF INTERROBANG ORNAMENTahCRIPT LIGATURE ",
   "ET ORNAMENTahINGLE COMMA QUOTATION MARK ORNAMENTanTURNED COMMA QUOTATION MARK ORNAMENTaiX ",
   "POINTED BLACK STARakSPOKED ASTERISKahOUTH EAST ARROWarPOINTING BUDbaVINE LEAFamWEST POINTI",
   "NG BUDbaVINE LEAFahPARKLEagTEARDROP-SHANKED RIGHTWARDS ARROWaqPOKED ASTERISKawPINWHEEL AST",
   "ERISKahRIANGLE-HEADED RIGHTWARDS ARROWahWELVE POINTED BLACK STARavPINWHEEL STARagUPPER RIG",
   "HT-SHADOWED WHITE RIGHTWARDS ARROWaiWARDS ARROW WITH EQUILATERAL ARROWHEADazLARGE EQUILATE",
   "RAL ARROWHEADagVERTICAL BARagWEDGE-TAILED RIGHTWARDS ARROWahHITE CIRCLEamDOWN-POINTING TRI",
   "ANGLEamSQUAREahIDE-HEADED RIGHTWARDS ARROWacBREW ACCENT ATNAH HAFUKHaoDARGAapEHIaoETNAHTAa",
   "oGERESHau MUQDAMarSHAYIMaoILUYaoMAHAPAKHapERKHAau KEFULAapUNAHaoOLEaoPASHTAaqZERaoQADMAaqR",
   "NEY PARAaoREVIAaoSEGOLapHALSHELETaoTELISHA GEDOLAawQETANAaqVIRapIPEHAaoYERAH BEN YOMOaqTIV",
   "aoZAQEF GADOLauQATANaqRQAapINORahLETTER ALEFas WITH MAPIQayPATAHayQAMATSaqTERNATIVE AYINba",
   "PLUS SIGNapYINaoBETar WITH DAGESHaxRAFEaoDALETat WITH DAGESHaoFINAL KAFax WITH DAGESHauMEM",
   "auNUNauPEaw WITH DAGESHauTSADIaoGIMELat WITH DAGESHaoHEaq WITH MAPIQaqTaoKAFar WITH DAGESH",
   "axRAFEaoLAMEDat WITH DAGESHaoMEMar WITH DAGESHaoNUNar WITH DAGESHaoPEaq WITH DAGESHawRAFEa",
   "oQOFar WITH DAGESHaoRESHas WITH DAGESHaoSAMEKHau WITH DAGESHapHINas WITH DAGESHbe AND SHIN",
   " DOTbkIN DOTaySHIN DOTazIN DOTaoTAVar WITH DAGESHapETar WITH DAGESHapSADIat WITH DAGESHaoV",
   "AVar WITH DAGESHaxHOLAMaoWIDE ALEFatDALETatFINAL MEMatHEatKAFatLAMEDatRESHatTAVaoYODar WIT",
   "H DAGESHaxHIRIQaoZAYINat WITH DAGESHaiIGATURE ALEF LAMEDaqYIDDISH DOUBLE VAVbfYODayVAV YOD",
   "ayYOD YOD PATAHahMARK LOWER DOTamMASORA CIRCLEamUPPER DOTahPOINT DAGESH OR MAPIQanHATAF PA",
   "TAHatQAMATSatSEGOLaoIRIQaoOLAMas HASER FOR VAVanJUDEO-SPANISH VARIKAanMETEGanPATAHanQAMATS",
   "at QATANaoUBUTSanRAFEanSEGOLaoHEVAapIN DOTaoIN DOTanTSEREaiUNCTUATION GERESHawSHAYIMatMAQA",
   "FatNUN HAFUKHAatPASEQatSOF PASUQahYOD TRIANGLEacDGEHOGacLICOPTERadLSCHREIBER PAUSE SYMBOLa",
   "dM SYMBOLaeET WITH WHITE CROSSacNTAIGANA LETTER A-1au2au3auWOasE-1au2au3au4au5au6asHA-1aw0",
   "aw1av2av3av4av5av6av7av8av9atE-1av2av3av4av5av6av7atI-1av2av3av4av5av6av7atO-1av2av3av4av5",
   "av6av7av8atU-1av2av3asI-1au2au3au4asKA-1aw0aw1av2av3av4av5av6av7av8av9avKEatE-1av2av3av4av",
   "5av6atI-1av2av3av4av5av6av7av8atO-1av2av3avKIatU-1av2av3av4av5av6av7asMA-1av2av3av4av5av6a",
   "v7atE-1av2avMAatI-1av2av3av4av5av6av7atO-1av2av3av4av5av6atU-1av2av3av4asN-MU-MO-1ba2atA-1",
   "av2av3av4av5av6av7av8av9atE-1av2av3av4av5av6avKOatI-1av2av3av4av5av6av7avTEatO-1av2av3av4a",
   "v5atU-1av2av3asO-1au2au3asRA-1av2av3av4atE-1av2av3av4atI-1av2av3av4av5av6av7atO-1av2av3av4",
   "av5av6atU-1av2av3av4av5av6asSA-1av2av3av4av5av6av7av8atE-1av2av3av4av5atI-1av2av3av4av5av6",
   "atO-1av2av3av4av5av6av7atU-1av2av3av4av5av6av7av8asTA-1av2av3av4atE-1av2av3av4av5av6av7av8",
   "av9atI-1av2av3av4av5av6av7atO-1av2av3av4av5av6avRAatU-1av2av3av4avTOasU-1au2au3au4au5asWA-",
   "1av2av3av4av5atE-1av2av3av4atI-1av2av3av4av5atO-1av2av3av4av5av6av7asYA-1av2av3av4av5avYOa",
   "tO-1av2av3av4av5av6atU-1av2av3av4acRBadMITIAN CONJUGATE MATRIXacXAGRAM FOR ABUNDANCEaoFTER",
   " COMPLETIONaoPPROACHanBEFORE COMPLETIONaoITING THROUGHaoREAKTHROUGHanCOMING TO MEETapNFLIC",
   "TaqTEMPLATIONanDARKENING OF THE LIGHTaoECREASEapLIVERANCEapVELOPMENTaoIFFICULTY AT THE BEG",
   "INNINGapSPERSIONaoURATIONanENTHUSIASManFELLOWSHIPaoOLLOWINGanGATHERING TOGETHERaoRACEapEAT",
   " POSSESSIONavWERauREPONDERANCEatTAMINGanHOLDING TOGETHERanINCREASEapFLUENCEapNER TRUTHaqOC",
   "ENCEanLIMITATIONanMODESTYapUTH CORNERSanOBSTRUCTIONaoPPOSITIONaqRESSIONanPEACEaoROGRESSaoU",
   "SHING UPWARDanRETREATaqURNapVOLUTIONanSMALL PREPONDERANCEatTAMINGaoPLITTING APARTaoTANDSTI",
   "LLanTHE ABYSMAL WATERasRMYatOUSING THUNDERarCAULDRONasLINGING FIREasREATIVE HEAVENarFAMILY",
   "arGENTLE WINDarJOYOUS LAKEarKEEPING STILL MOUNTAINarMARRYING MAIDENarRECEPTIVE EARTHarWAND",
   "ERERasELLaoREADINGanWAITINGaoORK ON THE DECAYEDanYOUTHFUL FOLLYabIBISCUSacGH BRIGHTNESS SY",
   "MBOLafOCTET PRESETafVOLTAGE SIGNae-HEELED SHOEafSPEED TRAINaq WITH BULLET NOSEacKING BOOTa",
   "cNDU TEMPLEacPPOPOTAMUSacRAGANA DIGRAPH YORIajITERATION MARKajLETTER AarRCHAIC WUayYEaqBAa",
   "rEarIarOarUaqDAarEarIarOarUaqEaqGAarEarIarOarUaqHAarEarIarOarUaqIaqKAarEarIarOarUaqMAarEar",
   "IarOarUaqNarAarEarIarOarUaqOaqPAarEarIarOarUaqRAarEarIarOarUaqSAarEarIarMALL AawEawIawKAax",
   "EawOawTUawUawWAaxEaxIaxOawYAaxOaxUarOarUaqTAarEarIarOarUaqUaqVUaqWAarEarIarOaqYAarOarUaqZA",
   "arEarIarOarUajVOICED ITERATION MARKacSTORIC SITEabOCHOacLEadLOW QUILT SQUARE ORNAMENTbc IN",
   " BLACK SQUAREacMOTHETICacNEY POTafBEEacOKacPacRIZONTAL BARamLACK HEXAGONarOCTAGONalELLIPSI",
   "SalLINE EXTENSIONalMALE WITH STROKE SIGNalONE EIGHTH BLOCK-1358bc2bc3bc4bc5bc6bc7alSCAN LI",
   "NE-1av3av7av9alTAB KEYaoULATIONav SETawWITH JUSTIFICATIONamRAFFIC LIGHTadSEaf FACEagRACING",
   "acSPITALacT BEVERAGEaeDOGaePEPPERaeSPRINGSadELacURGLASSaj WITH FLOWING SANDadSEaf BUILDING",
   "aoSagWITH GARDENabRYVNIA SIGNabTacJacSabUGGING FACEacNDRED POINTS SYMBOLacSHED FACEacTabYG",
   "IEAacPHENag BULLETahWITH DIAERESISag-MINUSagATION POINTadODIASTOLEacSTERESIS SYMBOLaaI LOV",
   "E YOU HAND SIGNabCE CREAMafUBEaeHOCKEY STICK AND PUCKaeSKATEabDENTICAL TOam AND SLANTED PA",
   "RALLELakWITH DOT ABOVEagFICATION CARDadOGRAPHIC ANNOTATION BOTTOM MARKaxEARTH MARKaxFIRST ",
   "MARKayOUR MARKbbTH MARKaxHEAVEN MARKaxLINKING MARKaxMAN MARKayIDDLE MARKaxONE MARKaxREVERS",
   "E MARKaxSECOND MARKaxTHIRD MARKazREE MARKayOP MARKayWO MARKamCLOSING MARKanOMMAamDEPARTING",
   " TONE MARKaoSCRIPTION CHARACTER ABOVE TO BELOWbrMIDDLE AND BELOWbiFULL SURROUNDbiLEFT TO M",
   "IDDLE AND RIGHTbqRIGHTbiOVERLAIDbiSURROUND FROM ABOVEbwBELOWbwLEFTbxOWER LEFTbwUPPER LEFTc",
   "cRIGHTamENTERING TONE MARKamFULL STOPamHALF FILL SPACEamITERATION MARKamLEVEL TONE MARKamN",
   "UMBER ZEROamRISING TONE MARKamSPACEamTALLY MARK FIVEayOURaxONEaxTHREEayWOanELEGRAPH LINE F",
   "EED SEPARATOR SYMBOLawSYMBOL FOR APRILbiUGUSTbhDAY EIGHTbqEENbmLEVENblFIFTEENbnVEbmOURbpTE",
   "ENblNINEbpTEENblONEblSEVENbqTEENbmIXboTEENblTENbmHIRTEENbqYbr-ONEbnREEbmWELVEboNTYbr-EIGHT",
   "bsFIVEbtOURbsNINEbsONEbsSEVENbtIXbsTHREEbtWObnObiECEMBERbhFEBRUARYbhHOUR EIGHTbrEENbnLEVEN",
   "bmFIFTEENboVEbnOURbqTEENbmNINEbqTEENbmONEbmSEVENbrTEENbnIXbpTEENbmTENbnHIRTEENboREEbnWELVE",
   "bpNTYbs-FOURbtONEbtTHREEbuWOboObmZERObhJANUARYbiULYbjNEbhMARCHbjYbhNOVEMBERbhOCTOBERbhSEPT",
   "EMBERamVARIATION INDICATORabMAGE OFai OR APPROXIMATELY EQUAL TOacPadERIAL ARAMAIC LETTER A",
   "LEPHazYINayBETHayDALETHayGIMELayHEbaTHayKAPHayLAMEDHayMEMayNUNayPEayQOPHayRESHaySADHEbaMEK",
   "HazHINayTAWazETHayWAWayYODHayZAYINarNUMBER ONEbb HUNDREDbcTHOUSANDayTENbb THOUSANDazHREEaz",
   "WENTYbaOarSECTION SIGNabNBOX TRAYacCOMING ENVELOPEafPLETE INFINITYadREASE FONT SIZE SYMBOL",
   "aiS ASafMENTacDadEXaf POINTING AT THE VIEWERadIAN RUPEE SIGNaeC SIYAQ ALTERNATE LAKH MARKa",
   "mFRACTION ONE HALFazQUARTERavTHREE QUARTERSamLAKH MARKamNUMBER ALTERNATE ONEbdTEN THOUSAND",
   "beWOatEIGHTay HUNDREDazTHOUSANDayYaz THOUSANDatFIFTYay THOUSANDavVEax HUNDREDayTHOUSANDauO",
   "RTYay THOUSANDavURax HUNDREDayTHOUSANDatKARORayANatLAKHaxANatNINEax HUNDREDayTHOUSANDaxTYa",
   "z THOUSANDatONEaw HUNDREDaxTHOUSANDatPREFIXED EIGHTbcFIVEbdOURbcNINEbcONEbcSEVENbdIXbcTHRE",
   "EbdWOatSEVENay HUNDREDazTHOUSANDayTYba THOUSANDauIXaw HUNDREDaxTHOUSANDawTYay THOUSANDatTE",
   "Naw THOUSANDauHIRTYaz THOUSANDavREEay HUNDREDazTHOUSANDauWENTYaz THOUSANDavOaw HUNDREDaxTH",
   "OUSANDamPLACEHOLDERamRUPEE MARKacFINITYai NEGATED WITH VERTICAL BARadORMATION DESK PERSONa",
   "mSEPARATOR FOURawONEawTHREEaxWOanOURCEacHIBIT ARABIC FORM SHAPINGaiSYMMETRIC SWAPPINGacPUT",
   " SYMBOL FOR LATIN CAPITAL LETTERSaxLETTERSaxSMALL LETTERSarNUMBERSarSYMBOLSacSCRIPTIONAL P",
   "AHLAVI LETTER ALEPHbdBETHbdDALETHbdGIMELbdHEbfTHbdKAPHbdLAMEDHbdMEM-QOPHbdNUNbdPEbdSADHEbf",
   "MEKHbeHINbdTAWbeETHbdWAW-AYIN-RESHbdYODHbdZAYINawNUMBER FOURbdONEbg HUNDREDbhTHOUSANDbdTEN",
   "beHREEbeWENTYbfOaqRTHIAN LETTER ALEPHbfYINbeBETHbeDALETHbeGIMELbeHEbgTHbeKAPHbeLAMEDHbeMEM",
   "beNUNbePEbeQOPHbeRESHbeSADHEbgMEKHbfHINbeTAWbfETHbeWAWbeYODHbeZAYINaxNUMBER FOURbeONEbh HU",
   "NDREDbiTHOUSANDbeTENbfHREEbfWENTYbgOadERTION SYMBOLacTEGRALai AROUND A POINT OPERATORakVER",
   "AGE WITH SLASHajEXTENSIONajWITH DOUBLE STROKEaoINTERSECTIONaoLEFTWARDS ARROW WITH HOOKaoOV",
   "ERBARaoTIMES SIGNaoUNDERBARaqIONaeRCALATEafIOR PRODUCTafLINEAR ANNOTATION ANCHORaxSEPARATO",
   "RaxTERMINATORagOCKED FEMALE AND MALE SIGNafROBANGafSECTIONam ABOVE BAR ABOVE UNIONatUNIONa",
   "nBESIDE AND JOINED WITH INTERSECTIONanWITH DOTasLOGICAL ANDasOVERBARacVERSE BULLETaiCHECK ",
   "MARKanER BOARD FILLaiDOWNWARDS ARROW WITH TIP LEFTWARDSaiMEDIUM SHADEaiWHITE CIRCLEafTED E",
   "XCLAMATION MARKajINTERROBANGajLAZY SakOW KAVYKAat WITH KAVYKA ABOVEajOHM SIGNajPENTAGRAMaj",
   "QUESTION MARKajUNDERTIEadISIBLE PLUSakSEPARATORakTIMESabZAKAYA LANTERNaaJACK-O-LANTERNacPA",
   "NESE BANK SYMBOLajCASTLEajDOLLSajGOBLINajINDUSTRIAL STANDARD SYMBOLajOGREajPOST OFFICEajSY",
   "MBOL FOR BEGINNERacRacVANESE CONSONANT SIGN CAKRAayKERETayPENGKALajDIGIT EIGHTapFIVEaqOURa",
   "pNINEapONEapSEVENaqIXapTHREEaqWOapZEROajLEFT RERENGGANalTTER AarIaqBAas MURDAaqCAas MURDAa",
   "qDAas MAHAPRANAarDAat MAHAPRANAaqEaqGAas MURDAaqHAaqIar KAWIarIaqJAas MAHAPRANAaqKAas MURD",
   "AatSASAKaqLAaqMAaqNAas MURDAarGAat LELETaz RASWADIarYAat MURDAaqOaqPAas CEREKatMURDAaqRAas",
   " AGUNGaqSAas MAHAPRANAauURDAaqTAas MURDAarTAat MAHAPRANAaqUaqWAaqYAajPADA ADEGas ADEGapNDA",
   "PaoISEN-ISENaoLINGSAapUHURaqNGSIaoMADYAaoPANGKATapISELEHaoTIRTA TUMETESaoWINDUalNGKONanRAN",
   "GKEPajRIGHT RERENGGANajSIGN CECAKat TELUaoLAYARaoPANYANGGAaoWIGNYANajTURNED PADA PISELEHaj",
   "VOWEL SIGN DIRGA MUREauPEPETauSUKUay MENDUTauTALINGawRUNGavOLONGauWULUay MELIKabEANSabIGSA",
   "W PUZZLE PIECEabOINacYSTICKabUGGLINGacNOacPITERaaKAABAacITHI ABBREVIATION SIGNahDANDAaiOUB",
   "LE DANDAaoSECTION MARKahENUMERATION SIGNahLETTER AapAapIapUaoBAapHAaoCAapHAaoDAapDAaqDHAaq",
   "HAapHAaoEaoGAapHAaoHAaoIapIaoJAapHAaoKAapHAaoLAaoMAaoNAapGAapNAapYAaoOaoPAapHAaoRAapHAaoSA",
   "apHAapSAaoTAapHAapTAaqHAaoUapUaoVAaoYAahNUMBER SIGNas ABOVEahSECTION MARKaiIGN ANUSVARAamC",
   "ANDRABINDUamNUKTAamVIRAMAaoSARGAahVOWEL SIGN AAatIatUasEasIatIasOasUatUasVOCALIC RacNGAROO",
   "aeXI RADICAL AGAINaqNDaqRRIVEasOWaqXEapBADGERarMBOOaqEANaqIGarRDarTTERaqLACKarOODarUEaqOAT",
   "arDYarLT OF CLOTHarNEarWaqRANCHarISTLEarUSHapCARTarULDRONarVEaqHILDaqITYaqLANasWarIFFarOTH",
   "ESaqOLORarMPAREarRPSEarVERarWapDEATHarERaqIPPERarSHasTINGUISHarVINATIONaqO NOTarGarORarTas",
   "TED CLIFFawTENTarUBLE XarWN BOXaqRAGONarUMarYapEARasTHarTaqIGHTaqMBROIDERYaqNCLOSUREarTERa",
   "qVENatINGaqYEapFACEarNGarTHERaqEATHERaqIELDarGHTarREarSHaqLUTEarYaqOOTaqRAGRANTarOGaqURapG",
   "ATEaqHOSTaqOar SLOWLYarLDaqRAINasSSapHAIRarLBERDasF TREE TRUNKarNDaqEADasRTarMPaqIDING ENC",
   "LOSUREaqOOKarRNasSEapICEaqNCHarSECTapJADEarRapKNIFEapLACKarMEaqEAFasTHERarEKarGSaqIDarFEar",
   "NEaqONGat STRIDEapMANaqEATarLONaqILLETarNISTERaqOONarRNINGasTARarUNDatTAINasTHapNETaqOSEar",
   "TapOLDaqNEasSELFaqPEN BOXarPOSEapPIGaqLOWaqOWERaqRIVATEarOFOUNDapRAINarParTaqEDaqICEarGHT ",
   "OPEN BOXarVERaqOOFaqUNapSACRIFICIAL WINEarLTarYaqCHOLARarRIPTaqEALarCONDarEarLFaqHEEPasLLa",
   "rOOTasRT TAILED BIRDawHREADaqICKNESSarLKaqKINaqLASHasVEarICEaqMALLaqNOUTaqOUNDaqPEARasECHa",
   "rIRITarOONarROUTaqQUAREaqTANDarEAMasParONEasPatPINGaqUNaqWEETapTABLEarLLarNNED LEATHERaqEN",
   "aqIGERarLEaqONGUEarOTHaqRACKarEEarIPODaqURBANasTLEaqWOas HANDSapUSEapVALLEYaqILLAGEapWALKa",
   "t ENCLOSUREarTERaqEAPONarSTaqHEATarITEaqINDasEaqOMANarRKaqRAParONGapYELLOWadNADA AI LENGTH",
   " MARKaiDIGIT EIGHTaoFIVEapOURaoNINEaoONEaoSEVENapIXaoTHREEapWOaoZEROaiLENGTH MARKakTTER Aa",
   "qAaqIaqUapBAaqHAapCAaqHAapDAaqDAarHAaqHAapEaqEapFAapGAaqHAapHAapIaqIapJAaqHAapKAaqHAapLAaq",
   "LAarLAapMAapNAarKAARA POLLUaqGAaqNAaqYAapOaqOapPAaqHAapRAaqRAapSAaqHAaqSAapTAaqHAaqTAarHAa",
   "pUaqUapVAaqOCALIC LayLaxRayRapYAaiSIGN ANUSVARAaoVAGRAHAanCANDRABINDUanJIHVAMULIYAanNUKTAa",
   "nSIDDHAMaoPACING CANDRABINDUanUPADHMANIYAanVIRAMAapSARGAaiVOWEL SIGN AAauIauUatEauEatIauIa",
   "tOauOatUauUatVOCALIC LbcLbbRbcRacTAKANA DIGRAPH KOTOajITERATION MARKajLETTER AarRCHAIC Eay",
   "WUayYEazIaqBAarEarIarOarUaqDAarEarIarOarUaqEaqGAarEarIarOarUaqHAarEarIarOarUaqIaqKAarEarIa",
   "rOarUaqMAarEarIasNNAN NASALIZED TONE-1bm2bm3bm4bm5bm7bm8axTONE-2bc3bc4bc5bc7bc8arOarUaqNar",
   "AarEarIarOarUaqOaqPAarEarIarOarUaqRAarEarIarOarUaqSAarEarIarMALL AawEawHAaxEaxIaxOaxUawIaw",
   "KAaxEaxUawMUawNaxUawOawRAaxEaxIaxOaxUawSIaxUawTOaxUawUawWAaxEaxIaxOawYAaxOaxUarOarUaqTAarE",
   "arIarOarUaqUaqVAarEarIarOarUaqWAarEarIarOaqYAarOarUaqZAarEarIarOarUajMIDDLE DOTajVOICED IT",
   "ERATION MARKai-HIRAGANA DOUBLE HYPHENasPROLONGED SOUND MARKasSEMI-VOICED SOUND MARKasVOICE",
   "D SOUND MARKacYAH LI DIGIT EIGHTapFIVEaqOURapNINEapONEapSEVENaqIXapTHREEaqWOapZEROajLETTER",
   " AaqBAaqCAaqDAaqGAaqHAarTAaqIaqKAarHAaqLAaqMAaqNAarGAarYAaqOEarOaqPAarHAaqRAaqSAarHAaqTAar",
   "HAaqVAaqWAaqYAaqZAajSIGN CWIaoSHYAajTONE CALYAat PLOPHUaoPLOPHUajVOWEL EaqEapOapUaqEabELVI",
   "N SIGNacYadBOARDai AND MOUSEadCAP TENabHAROSHTHI DIGIT FOURarONEarTHREEasWOalFRACTION ONE ",
   "HALFalLETTER AasBAatHAasCAatHAasDAatDAauHAatHAasGAatHAasHAasJAasKAatHAatKAasLAasMAasNAatNA",
   "atYAasPAatHAasRAasSAatHAatSAasTAatHAatTAauHAauTAavHAasVAatHAasYAasZAalNUMBER ONE HUNDREDaw",
   "THOUSANDasTENatWENTYalPUNCTUATION CIRCLEayRESCENT BARaxDANDAayOTazUBLE DANDAaxLINESayOTUSa",
   "xMANGALAMaxSMALL CIRCLEalSIGN ANUSVARAaqBAR ABOVEaqCAUDAaqDOT BELOWasUBLE RING BELOWaqVISA",
   "RGAalVIRAMAamOWEL LENGTH MARKarSIGN EawIawOawUawVOCALIC RacITAN SMALL SCRIPT FILLERacMER C",
   "URRENCY SYMBOL RIELagDIGIT EIGHTamFIVEanOURamNINEamONEamSEVENanIXamTHREEanWOamZEROagINDEPE",
   "NDENT VOWEL LYbaYayQAAbaIbaQbaUazEazIbaIazOO TYPE ONEbhTWOazUbaKbaUbbVayRYbaYagLETTER BAan",
   "CAaoHAapOaoOanDAaoOanHAanKAaoHAapOaoOanLAaoOanMOanNGOaoNOaoOaoYOanPHAapOaoOanQAanROanSAaoH",
   "AaoSOanTAaoHAapOaoOaoTHAaqOanVOanYOagSIGN AHSDAamTTHACANamVAKRAHASANYAalBANTOCanRIYOOSANan",
   "THAMASATamEYYALalCAMNUC PII KUUHamOENGalKAKABATamHANamOOMUUTalLEK TOOalMUUSIKATOANalNIKAHI",
   "TalPHNAEK MUANalREAHMUKamOBATalSAMYOK SANNYAalTOANDAKHIATamRIISAPalVIRIAMalYUUKALEAPINTUah",
   "YMBOL BEI KOETarROCaoUON KOETasROCanDAP KOETarROCaq-BEI KOETavROCasUON KOETawROCarMUOY KOE",
   "TawROCarPII KOETavROCasRAM KOETawROCanLEK ATTAK BEIayUONaxMUOYaxPIIayRAMbb-BEIbdUONbcMUOYb",
   "cPIIaxSONanMUOY KOETasROCanPATHAMASATaoII KOETarROCaoRAM KOETasROCar-BEI KOETawROCatUON KO",
   "ETaxROCasMUOY KOETaxROCasPII KOETawROCanTUTEYASATagVOWEL INHERENT AAawQamSIGN AAasEasIasUa",
   "rEarIasEasIarOEasOarUasAasUarYasAasYacOJKI ABBREVIATION SIGNahDANDAaiOUBLE DANDAaoSECTION ",
   "MARKahLETTER AapAapIapUaoBAapBAapHAaoCAapHAaoDAapDAaqDAaqHAapHAaoEaoGAapGAapHAaoHAaoIaoJAa",
   "pJAaoKAapHAaoLAapLAaoMAaoNAapGAapNAapYAaoOaoPAapHAaoRAaoSAaoTAapHAapTAaqHAaoUaoVAaoYAahSEC",
   "TION MARKaiIGN ANUSVARAamNUKTAamSHADDAanUKUNamVIRAMAahVOWEL SIGN AAatIatUasEasIatIasOasUah",
   "WORD SEPARATORacUDAWADI DIGIT EIGHTaqFIVEarOURaqNINEaqONEaqSEVENarIXaqTHREEarWOaqZEROakLET",
   "TER AasAasIasUarBAasBAasHAarCAasHAarDAasDAatDAatHAasHAarEarGAasGAasHAarHAarIasIarJAasHAasJ",
   "AarKAasHAarLAarMAarNAasGAasNAasYAarOarPAasHAarRAasRAarSAasHAarTAasHAasTAatHAarUasUarVAarYA",
   "akSIGN ANUSVARAapNUKTAapVIRAMAakVOWEL SIGN AAawIawUavEavIawIavOavUawUabIMONOacP SIGNacSSae",
   " MARKaeING CAT FACE WITH CLOSED EYESaiFACEam WITH CLOSED EYESasSMILING EYESacTEacWIFRUITab",
   "NEELING PERSONacOTabOALAacREAN STANDARD SYMBOLabRONOSaaL B BAR SYMBOLabAB COATadELacCROSSE",
   " STICK AND BALLacDDERadY BEETLEacNGUAGE TAGacO CANCELLATION MARKaeDIGIT EIGHTakFIVEalOURak",
   "NINEakONEakSEVENalIXakTHREEalWOakZEROaeELLIPSISaeHO MOahNOaeKO LAaeLETTER BOalCOalDOalFO F",
   "AYapONaoSUNGaoTAMalHO SUNGaoTAMalKHMU GOaqNYOanO SUNGapTAMamOalLOan LINGapOOTalMOalNGOamOa",
   "mYOalOalPALI BHAaqCHAaqDDAasHAarHAaqGHAaqJHAaqLLAaqNNAarYAaqTTAasHAamHO SUNGapTAMamOalROal",
   "SANSKRIT SHAavSAamO SUNGaoTAMalTHO SUNGapTAMamOalWOalYOaeNIGGAHITAaeSEMIVOWEL SIGN LOatNYO",
   "afIGN PALI VIRAMAaeTONE MAI CATAWAanEKanTHOaoIaeVOWEL SIGN AaqAaqIaqMaqYapEaqIapIaqIapMAI ",
   "KANauONapOapUaqUapYaqYacRGE BLUE CIRCLEalDIAMONDalSQUAREahROWN CIRCLEamSQUAREagCIRCLEagDOW",
   "N TACKagGREEN CIRCLEamSQUAREagLEFT TRIANGLE OPERATORagONE DOT OVER TWO DOTS PUNCTUATIONakR",
   "ING OVER TWO RINGS PUNCTUATIONahRANGE CIRCLEanDIAMONDanSQUAREagPURPLE CIRCLEanSQUAREagRED ",
   "CIRCLEakSQUAREagTRIPLE VERTICAL BAR OPERATORahWO DOTS OVER ONE DOT PUNCTUATIONakRINGS OVER",
   " ONE RING PUNCTUATIONagUP TACKagYELLOW CIRCLEanSQUAREafR THANal OR EQUAL TOadI SIGNacST QU",
   "ARTER MOONar SYMBOLasWITH FACEacTIN CAPITAL LETTER Aaw WITH ACUTEbcBREVEbh AND ACUTEbmDOT ",
   "BELOWbmGRAVEbmHOOK ABOVEbmTILDEbcCARONbdIRCUMFLEXbm AND ACUTEbrDOT BELOWbrGRAVEbrHOOK ABOV",
   "EbrTILDEbcDIAERESISbl AND MACRONbdOT ABOVEbl AND MACRONbgBELOWbeUBLE GRAVEbcGRAVEbcHOOK AB",
   "OVEbcINVERTED BREVEbcMACRONbcOGONEKbcRING ABOVEbm AND ACUTEbhBELOWbcSTROKEbcTILDEawAawEax ",
   "WITH ACUTEbdMACRONawFRICAN DawLPHAawNGLICANA WawOawUawVax WITH HORIZONTAL BARawYavBaw WITH",
   " DOT ABOVEbgBELOWbcFLOURISHbcHOOKbcLINE BELOWbcSTROKEbcTOPBARawETAawROKEN LavCaw WITH ACUT",
   "EbcBARbcCARONbdEDILLAbj AND ACUTEbdIRCUMFLEXbcDOT ABOVEbcHOOKbcPALATAL HOOKbcSTROKEawHIawL",
   "OSED INSULAR GawONawUATRILLObe WITH COMMAavDaw WITH CARONbdEDILLAbdIRCUMFLEX BELOWbcDOT AB",
   "OVEbgBELOWbcHOOKbcLINE BELOWbcSHORT STROKE OVERLAYbdMALL LETTER Zbq WITH CARONbdTROKEbcTOP",
   "BARawZax WITH CARONavEaw WITH ACUTEbcBREVEbcCARONbdEDILLAbj AND BREVEbdIRCUMFLEXbm AND ACU",
   "TEbrDOT BELOWbrGRAVEbrHOOK ABOVEbrTILDEbnBELOWbcDIAERESISbdOT ABOVEbgBELOWbeUBLE GRAVEbcGR",
   "AVEbcHOOK ABOVEbcINVERTED BREVEbcMACRONbi AND ACUTEbnGRAVEbcOGONEKbcSTROKEbcTILDEbh BELOWa",
   "wGYPTOLOGICAL AINbkLEFawNGawSHawTaxHawZHay REVERSEDazWITH CARONavFaw WITH DOT ABOVEbcHOOKb",
   "cSTROKEavGaw WITH ACUTEbcBREVEbcCARONbdEDILLAbdIRCUMFLEXbcDOT ABOVEbcHOOKbcMACRONbcOBLIQUE",
   " STROKEbcSTROKEawAMMAawHAawLOTTAL AbdIbdSTOPbdUavHaw WITH BREVE BELOWbcCARONbdEDILLAbdIRCU",
   "MFLEXbcDESCENDERbdIAERESISbdOT ABOVEbgBELOWbcHOOKbcSTROKEawALF HawENGawWAIRavIaw WITH ACUT",
   "EbcBREVEbcCARONbdIRCUMFLEXbcDIAERESISbl AND ACUTEbdOT ABOVEbgBELOWbeUBLE GRAVEbcGRAVEbcHOO",
   "K ABOVEbcINVERTED BREVEbcMACRONbcOGONEKbcSTROKEbcTILDEbh BELOWawNSULAR DbdFbdGbdRbdSbdTawO",
   "TAawSavJaw WITH CIRCUMFLEXbdROSSED-TAILbcSTROKEavKaw WITH ACUTEbcCARONbdEDILLAbcDESCENDERb",
   "dIAGONAL STROKEbdOT BELOWbcHOOKbcLINE BELOWbcOBLIQUE STROKEbcSTROKEbi AND DIAGONAL STROKEa",
   "vLaw WITH ACUTEbcBARbdELTbcCARONbdEDILLAbdIRCUMFLEX BELOWbcDOT BELOWbl AND MACRONbeUBLE BA",
   "RbcHIGH STROKEbcLINE BELOWbcMIDDLE DOTbjTILDEbcSMALL LETTER JbdTROKEawJavMaw WITH ACUTEbcD",
   "OT ABOVEbgBELOWbcHOOKawIDDLE SCOTS Sbb-WELSH LLbiVavNaw WITH ACUTEbcCARONbdEDILLAbdIRCUMFL",
   "EX BELOWbcDESCENDERbdOT ABOVEbgBELOWbcGRAVEbcLEFT HOOKbdINE BELOWbdONG RIGHT LEGbcOBLIQUE ",
   "STROKEbcSMALL LETTER JbcTILDEawJavOaw WITH ACUTEbcBREVEbcCARONbdIRCUMFLEXbm AND ACUTEbrDOT",
   " BELOWbrGRAVEbrHOOK ABOVEbrTILDEbcDIAERESISbl AND MACRONbdOT ABOVEbl AND MACRONbgBELOWbeUB",
   "LE ACUTEbjGRAVEbcGRAVEbcHOOK ABOVEbeRNbg AND ACUTEblDOT BELOWblGRAVEblHOOK ABOVEblTILDEbcI",
   "NVERTED BREVEbcLONG STROKE OVERLAYbeOPbcMACRONbi AND ACUTEbnGRAVEbdIDDLE TILDEbcOGONEKbi A",
   "ND MACRONbcSTROKEbi AND ACUTEbcTILDEbh AND ACUTEbmDIAERESISbmMACRONawIawLD POLISH OawMEGAa",
   "wOawPEN EbaOawUavPaw WITH ACUTEbcDOT ABOVEbcFLOURISHbcHOOKbcSQUIRREL TAILbdTROKEbi THROUGH",
   " DESCENDERavQaw WITH DIAGONAL STROKEbcSTROKE THROUGH DESCENDERavRaw ROTUNDAaxWITH ACUTEbcC",
   "ARONbdEDILLAbcDOT ABOVEbgBELOWbl AND MACRONbeUBLE GRAVEbcINVERTED BREVEbcLINE BELOWbcOBLIQ",
   "UE STROKEbcSTROKEbcTAILawEVERSED C WITH DOTbeEbeHALF HbeOPEN EawUM ROTUNDAavSaw WITH ACUTE",
   "bh AND DOT ABOVEbcCARONbh AND DOT ABOVEbdEDILLAbdIRCUMFLEXbdOMMA BELOWbcDOT ABOVEbgBELOWbl",
   " AND DOT ABOVEbcHOOKbcOBLIQUE STROKEbcSHORT STROKE OVERLAYbdWASH TAILawALTILLOawCHWAaxRIPT",
   " GawHARP SawIGMOID SawMALL CAPITAL IbbQ WITH HOOK TAILavTaw WITH CARONbdEDILLAbdIRCUMFLEX ",
   "BELOWbdOMMA BELOWbcDIAGONAL STROKEbdOT ABOVEbgBELOWbcHOOKbcLINE BELOWbcRETROFLEX HOOKbcSTR",
   "OKEawHORNba WITH STROKEbm THROUGH DESCENDERawONE FIVEbaSIXbaTWOawRESILLOawURNED AbdLPHAbcH",
   "bcINSULAR GbcKbcLbcMbcTbcVawZavUaw BARaxWITH ACUTEbcBREVEbcCARONbdIRCUMFLEXbm BELOWbcDIAER",
   "ESISbl AND ACUTEbqCARONbqGRAVEbqMACRONbmBELOWbdOT BELOWbeUBLE ACUTEbjGRAVEbcGRAVEbcHOOK AB",
   "OVEbeRNbg AND ACUTEblDOT BELOWblGRAVEblHOOK ABOVEblTILDEbcINVERTED BREVEbcMACRONbi AND DIA",
   "ERESISbcOGONEKbcRING ABOVEbcSTROKEbcTILDEbh AND ACUTEbiBELOWawPSILONavVaw WITH DIAGONAL ST",
   "ROKEbdOT BELOWbcHOOKbcTILDEawENDawISIGOTHIC ZawOLAPUK AEbdOEbdUEawYavWaw WITH ACUTEbcCIRCU",
   "MFLEXbcDIAERESISbdOT ABOVEbgBELOWbcGRAVEbcHOOKawYNNavXaw WITH DIAERESISbdOT ABOVEavYaw WIT",
   "H ACUTEbcCIRCUMFLEXbcDIAERESISbdOT ABOVEbgBELOWbcGRAVEbcHOOKbg ABOVEbcLOOPbcMACRONbcSTROKE",
   "bcTILDEawOGHavZaw WITH ACUTEbcCARONbdIRCUMFLEXbcDESCENDERbdOT ABOVEbgBELOWbcHOOKbcLINE BEL",
   "OWbcPALATAL HOOKbcSTROKEbdWASH TAILapIGATURE IJaxOEahROSSagEPIGRAPHIC LETTER ARCHAIC MayI ",
   "LONGAazNVERTED MayREVERSED FbhPaySIDEWAYS IagLETTER AINaoLVEOLAR CLICKanBIDENTAL PERCUSSIV",
   "EapLABIAL CLICKawPERCUSSIVEanDENTAL CLICKanGLOTTAL STOPaz WITH STROKEanINVERTED GLOTTAL ST",
   "OPbi WITH CURLboSTROKEanLATERAL CLICKanPHARYNGEAL VOICED FRICATIVEanRETROFLEX CLICKbc WITH",
   " RETROFLEX HOOKapVERSED ESH LOOPawGLOTTAL STOP WITH STROKEanSINOLOGICAL DOTaoMALL CAPITAL ",
   "AbcEbbBbcARRED BbbCbbDbbEbcTHbcZHbbFbbGbc WITH HOOKbbHbbIbcNVERTED RbbJbbKbbLbc WITH BELTb",
   "iSTROKEbbMbbNbbObcEbcPEN ObcUbbPbbQbbRbc WITH RIGHT LEGbcEVERSED NbkRbcUMbbSbbTbcURNED Ebi",
   "GbiKbiMbiRbbUbbVbbWbbYbbZaoTRETCHED Cay WITH CURLanTWO WITH STROKEanVOICED LARYNGEAL SPIRA",
   "NTanWYNNanYRagSMALL CAPITAL LETTER I WITH STROKEbbU WITH STROKEamLETTER Aau REVERSED-SCHWA",
   "avWITH ACUTEbaBREVEbf AND ACUTEbkDOT BELOWbkGRAVEbkHOOK ABOVEbkTILDEbaCARONbbIRCUMFLEXbk A",
   "ND ACUTEbpDOT BELOWbpGRAVEbpHOOK ABOVEbpTILDEbaDIAERESISbj AND MACRONbbOT ABOVEbj AND MACR",
   "ONbeBELOWbcUBLE GRAVEbaGRAVEbaHOOK ABOVEbaINVERTED BREVEbaMACRONbaOGONEKbaRETROFLEX HOOKbb",
   "IGHT HALF RINGbcNG ABOVEbk AND ACUTEbfBELOWbaSTROKEbaTILDEauAauEav WITH ACUTEbbMACRONauLPH",
   "Aay WITH RETROFLEX HOOKauNGLICANA WauOauUauVav WITH HORIZONTAL BARauYatBau WITH DOT ABOVEb",
   "eBELOWbaFLOURISHbaHOOKbaLINE BELOWbaMIDDLE TILDEbaPALATAL HOOKbaSTROKEbaTOPBARauARRED ALPH",
   "AbaEbaOavSELINE ESHauETAauLACKLETTER EbfObg WITH STROKEauOTTOM HALF OauROKEN LatCau WITH A",
   "CUTEbaBARbaCARONbbEDILLAbh AND ACUTEbbIRCUMFLEXbbURLbaDOT ABOVEbaHOOKbaPALATAL HOOKbaRETRO",
   "FLEX HOOKbaSTROKEauHIaw WITH LOW LEFT SERIFbgRIGHT RINGauLOSED INSULAR GbaOMEGAbbPEN EbaRE",
   "VERSED OPEN EauONauUATRILLObc WITH COMMAatDau WITH CARONbbEDILLAbbIRCUMFLEX BELOWbbURLbaDO",
   "T ABOVEbeBELOWbaHOOKbe AND TAILbaLINE BELOWbaMIDDLE TILDEbaPALATAL HOOKbaSHORT STROKE OVER",
   "LAYbbTROKEbaTAILbbOPBARauB DIGRAPHauELTAavZH DIGRAPHbf WITH PALATAL HOOKblRETROFLEX HOOKau",
   "OTLESS IbbJbc WITH STROKEbo AND HOOKavUBLE Rbb WITH CROSSED-TAILbaTHORNbaWYNNauUMauZav DIG",
   "RAPHbd WITH CURLbjRETROFLEX HOOKawWITH CARONatEau WITH ACUTEbaBREVEbaCARONbbEDILLAbh AND B",
   "REVEbbIRCUMFLEXbk AND ACUTEbpDOT BELOWbpGRAVEbpHOOK ABOVEbpTILDEblBELOWbaDIAERESISbbOT ABO",
   "VEbeBELOWbcUBLE GRAVEbaFLOURISHbaGRAVEbaHOOK ABOVEbaINVERTED BREVEbaMACRONbg AND ACUTEblGR",
   "AVEbaNOTCHbaOGONEKbaRETROFLEX HOOKbaSTROKEbaTILDEbf BELOWauGYPTOLOGICAL AINbiLEFauNGaw WIT",
   "H CROSSED-TAILbcPALATAL HOOKauSHaw WITH CURLbcDOUBLE BARbm AND CURLbcPALATAL HOOKbcRETROFL",
   "EX HOOKauTavHauZHaw REVERSEDaxWITH CARONbdURLbcPALATAL HOOKbcRETROFLEX HOOKbcTAILatFau WIT",
   "H DOT ABOVEbaHOOKbaMIDDLE TILDEbaPALATAL HOOKbaSTROKEauENG DIGRAPHbf WITH TRILLatGau WITH ",
   "ACUTEbaBREVEbaCARONbbEDILLAbbIRCUMFLEXbaDOT ABOVEbaHOOKbaMACRONbaOBLIQUE STROKEbaPALATAL H",
   "OOKbaSTROKEauAMMAauHAauLOTTAL AbbIbbSTOPbbUatHau WITH BREVE BELOWbaCARONbbEDILLAbbIRCUMFLE",
   "XbaDESCENDERbbIAERESISbbOT ABOVEbeBELOWbaHOOKbaLINE BELOWbaPALATAL HOOKbaSTROKEauALF HauEN",
   "Gax WITH HOOKauVatIau WITH ACUTEbaBREVEbaCARONbbIRCUMFLEXbaDIAERESISbj AND ACUTEbbOT BELOW",
   "bcUBLE GRAVEbaGRAVEbaHOOK ABOVEbaINVERTED BREVEbaMACRONbaOGONEKbaRETROFLEX HOOKbaSTROKEbg ",
   "AND RETROFLEX HOOKbaTILDEbf BELOWauNSULAR DbbFbbGbbRbbSbbTavVERTED ALPHAbcOEauOTAax WITH S",
   "TROKEawIFIED EauSatJau WITH CARONbbIRCUMFLEXbbROSSED-TAILbaSTROKEatKau WITH ACUTEbaCARONbb",
   "EDILLAbaDESCENDERbbIAGONAL STROKEbbOT BELOWbaHOOKbaLINE BELOWbaOBLIQUE STROKEbaPALATAL HOO",
   "KbaSTROKEbg AND DIAGONAL STROKEauRAatLau WITH ACUTEbaBARbbELTbe AND PALATAL HOOKbaCARONbbE",
   "DILLAbbIRCUMFLEX BELOWbbURLbaDOT BELOWbj AND MACRONbcUBLE BARbhMIDDLE TILDEbaFISHHOOKbaHIG",
   "H STROKEbaINVERTED LAZY SbaLINE BELOWbaMIDDLE DOTbhRINGbhTILDEbaPALATAL HOOKbaRETROFLEX HO",
   "OKbo AND BELTbaSTROKEauAMBDA WITH STROKEauENIS FavZHax WITH RETROFLEX HOOKauJauONG Saz WIT",
   "H DIAGONAL STROKEbgOT ABOVEbfHIGH STROKEauS DIGRAPHauUMauZ DIGRAPHatMau WITH ACUTEbaCROSSE",
   "D-TAILbaDOT ABOVEbeBELOWbaHOOKbaMIDDLE TILDEbaPALATAL HOOKauIDDLE SCOTS Saz-WELSH LLbgVauU",
   "MatNau PRECEDED BY APOSTROPHEavWITH ACUTEbaCARONbbEDILLAbbIRCUMFLEX BELOWbbROSSED-TAILbbUR",
   "LbaDESCENDERbbOT ABOVEbeBELOWbaGRAVEbaLEFT HOOKbbINE BELOWbbONG RIGHT LEGbaMIDDLE TILDEbaO",
   "BLIQUE STROKEbaPALATAL HOOKbaRETROFLEX HOOKbaTILDEauJauUMatOau WITH ACUTEbaBREVEbaCARONbbI",
   "RCUMFLEXbk AND ACUTEbpDOT BELOWbpGRAVEbpHOOK ABOVEbpTILDEbaDIAERESISbj AND MACRONbbOT ABOV",
   "Ebj AND MACRONbeBELOWbcUBLE ACUTEbhGRAVEbaGRAVEbaHOOK ABOVEbcRNbe AND ACUTEbjDOT BELOWbjGR",
   "AVEbjHOOK ABOVEbjTILDEbaINVERTED BREVEbaLONG STROKE OVERLAYbcOPbcW RING INSIDEbaMACRONbg A",
   "ND ACUTEblGRAVEbaOGONEKbg AND MACRONbaRETROFLEX HOOKbaSTROKEbg AND ACUTEbaTILDEbf AND ACUT",
   "EbkDIAERESISbkMACRONauIauLD POLISH OauMEGAauOauPEN Eaz WITH RETROFLEX HOOKayOaz WITH RETRO",
   "FLEX HOOKbfSTROKEazEauUatPau WITH ACUTEbaDOT ABOVEbaFLOURISHbaHOOKbaMIDDLE TILDEbaPALATAL ",
   "HOOKbaSQUIRREL TAILbbTROKEbg THROUGH DESCENDERauHIatQau WITH DIAGONAL STROKEbaHOOKbe TAILb",
   "aSTROKE THROUGH DESCENDERauP DIGRAPHatRau ROTUNDAavWITH ACUTEbaCARONbbEDILLAbbROSSED-TAILb",
   "aDOT ABOVEbeBELOWbj AND MACRONbcUBLE GRAVEbaFISHHOOKbi AND MIDDLE TILDEbnPALATAL HOOKbaINV",
   "ERTED BREVEbaLINE BELOWbbONG LEGbaMIDDLE TILDEbaOBLIQUE STROKEbaPALATAL HOOKbaSTROKEbaTAIL",
   "azOUT HANDLEauAMS HORNauEVERSED Cbd WITH DOTbcEbdNGbcHALF HbcKbcOPEN Ebi WITH HOOKboRETROF",
   "LEX HOOKbcR WITH FISHHOOKbcSCRIPT GauUMaw ROTUNDAatSau WITH ACUTEbf AND DOT ABOVEbaCARONbf",
   " AND DOT ABOVEbbEDILLAbbIRCUMFLEXbbOMMA BELOWbbURLbaDOT ABOVEbeBELOWbj AND DOT ABOVEbaHOOK",
   "baMIDDLE TILDEbaOBLIQUE STROKEbaPALATAL HOOKbaSHORT STROKE OVERLAYbbWASH TAILauAKHA YATavL",
   "TILLOauCHWAay WITH HOOKbeRETROFLEX HOOKavRIPT Gbb WITH CROSSED-TAILbaRbb WITH RINGauHARP S",
   "auIDEWAYS DIAERESIZED UbcObd WITH STROKEbdPEN ObcTURNED MbcUavGMOID SauQUAT REVERSED ESHau",
   "TIRRUP RatTau WITH CARONbbEDILLAbbIRCUMFLEX BELOWbbOMMA BELOWbbURLbaDIAERESISbdGONAL STROK",
   "EbbOT ABOVEbeBELOWbaHOOKbe AND RETROFLEX HOOKbaLINE BELOWbaMIDDLE TILDEbaPALATAL HOOKbaRET",
   "ROFLEX HOOKbaSTROKEauAILLESS PHIauC DIGRAPH WITH CURLauESH DIGRAPHbf WITH PALATAL HOOKblRE",
   "TROFLEX HOOKauH WITH STRIKETHROUGHavORNay WITH STROKEbk THROUGH DESCENDERauONE FIVEaySIXay",
   "TWOavP HALF OauRESILLOauS DIGRAPHbd WITH RETROFLEX HOOKauUMavRNED AbbEbbLPHAbaDELTAbaEbaGb",
   "aHbb WITH FISHHOOKbp AND TAILbaIbbNSULAR GbaKbaLbaMbb WITH LONG LEGbaO OPEN-Obi WITH STROK",
   "EbbEbc WITH HORIZONTAL STROKEbiSTROKEbbPEN EbaRbb WITH HOOKbhLONG LEGbp AND RETROFLEX HOOK",
   "bhMIDDLE TILDEbhPALATAL HOOKbhTAILbaTbb WITH CURLbaUIbaVbaWbaYbb WITH BELTauZatUau BARay W",
   "ITH SHORT RIGHT LEGavWITH ACUTEbaBREVEbaCARONbbIRCUMFLEXbk BELOWbaDIAERESISbj AND ACUTEboC",
   "ARONboGRAVEboMACRONbkBELOWbbOT BELOWbcUBLE ACUTEbhGRAVEbaGRAVEbaHOOK ABOVEbcRNbe AND ACUTE",
   "bjDOT BELOWbjGRAVEbjHOOK ABOVEbjTILDEbaINVERTED BREVEbaLEFT HOOKbaMACRONbg AND DIAERESISba",
   "OGONEKbaRETROFLEX HOOKbbING ABOVEbaSHORT RIGHT LEGbbTROKEbaTILDEbf AND ACUTEbgBELOWauEauIa",
   "uMauOauPSILONba WITH STROKEatVau WITH CURLbaDIAGONAL STROKEbbOT BELOWbaHOOKbaPALATAL HOOKb",
   "aRIGHT HOOKbaTILDEauENDauISIGOTHIC ZauOLAPUK AEbbOEbbUEauYatWau WITH ACUTEbaCIRCUMFLEXbaDI",
   "AERESISbbOT ABOVEbeBELOWbaGRAVEbaHOOKbaRING ABOVEatXau WITH DIAERESISbbOT ABOVEbaLONG LEFT",
   " LEGbn AND LOW RIGHT RINGboWITH SERIFbcW RIGHT RINGbaPALATAL HOOKatYau WITH ACUTEbaCIRCUMF",
   "LEXbaDIAERESISbbOT ABOVEbeBELOWbaGRAVEbaHOOKbe ABOVEbaLOOPbaMACRONbaRING ABOVEbaSHORT RIGH",
   "T LEGbbTROKEbaTILDEauOGHatZau WITH ACUTEbaCARONbbIRCUMFLEXbbURLbaDESCENDERbbOT ABOVEbeBELO",
   "WbaHOOKbaLINE BELOWbaMIDDLE TILDEbaPALATAL HOOKbaRETROFLEX HOOKbaSTROKEbbWASH TAILanIGATUR",
   "E FFaxIaxLawIawLavIJavLONG S TavOEavSTahUBSCRIPT SMALL LETTER AbdEbdHbdIbdJbdKbdLbdMbdNbdO",
   "bdPbdRbdSbeCHWAbdTbdUbdVbdXabEAF FLUTTERING IN WINDaeY GREENacDGERacFT AND LOWER AND RIGHT",
   " TRIANGULAR THREE QUARTERS BLOCKapONE EIGHTH BLOCKajRIGHT DOUBLE TURNSTILEapTACKaqRIANGULA",
   "R HALF BLOCKajUPPER AND RIGHT TRIANGULAR THREE QUARTERS BLOCKapONE EIGHTH BLOCKahGER BUBBL",
   "EaiLE BRACKETas WITH DOTagRC LESS-THAN BRACKETahROW WITH CIRCLED PLUSaqSMALL CIRCLEafBARB ",
   "DOWN RIGHT BARB DOWN HARPOONbaUP HARPOONakUP RIGHT BARB DOWN HARPOONayUP HARPOONagLACK LEN",
   "TICULAR BRACKETalTORTOISE SHELL BRACKETafCEILINGagLOSED ENTRYagORNER BRACKETagURLY BRACKET",
   "as LOWER HOOKatMIDDLE PIECEatUPPER HOOKafDOTTED SUBSTITUTION BRACKETahUBLE ANGLE BRACKETam",
   "PARENTHESISamQUOTATION MARKamWIGGLY FENCEafFISH TAILahVE EIGHTHS BLOCKagLOORafHALF BLACK C",
   "IRCLEaqSTARamOCKakCIRCLEaq WITH DOTawFOUR DOTSawTHREE DOTSaxWO DOTSakFOLDERakINVERSE MEDIU",
   "M SHADE AND RIGHT HALF BLOCKakMEDIUM SHADEakRUNNING MANahND TELEPHONE RECEIVERafLOW PARAPH",
   "RASE BRACKETagUGGAGEafMULTIMAPafNORMAL FACTOR SEMIDIRECT PRODUCTafONE EIGHTH BLOCKajQUARTE",
   "R BLOCKagUTER JOINafPARENTHESISaq EXTENSIONarLOWER HOOKarUPPER HOOKafRAISED OMISSION BRACK",
   "ETagIGHT ARROWaq THROUGH SMALL CIRCLEarWITH DOUBLE VERTICAL STROKEawSTROKEawVERTICAL STROK",
   "EalBLACK ARROWalDOUBLE ARROWax WITH STROKEbdVERTICAL STROKEalOPEN-HEADED ARROWalSANS-SERIF",
   " ARROWalTRIANGLE-HEADED ARROWalWAVE ARROWamHITE ARROWafS-SHAPED BAG DELIMITERagEMIDIRECT P",
   "RODUCTahVEN EIGHTHS BLOCKagIDEWAYS U BRACKETahNGLE QUOTATION MARKagPEECH BUBBLEagQUARE BRA",
   "CKETat EXTENSIONauLOWER CORNERauUPPER CORNERauWITH DOUBLE STROKEazQUILLazSTROKEazTICK IN B",
   "OTTOM CORNERbhTOP CORNERazUNDERBARagUBSTITUTION BRACKETafTACKagHIRD WHITE RIGHT POINTING I",
   "NDEXahOUGHT BUBBLEahREE EIGHTHS BLOCKalQUARTERS BLOCKagORTOISE SHELL BRACKETagRANSPOSITION",
   " BRACKETahIANGLE BESIDE VERTICAL BARalULAR ONE QUARTER BLOCKafVERTICAL BAR WITH QUILLapOX ",
   "LINEafWHITE CORNER BRACKETamURLY BRACKETalLENTICULAR BRACKETalPARENTHESISalSQUARE BRACKETa",
   "lTORTOISE SHELL BRACKETagIGGLY FENCEagRITING HANDae-FACING ARMENIAN ETERNITY SIGNamFISTamS",
   "VASTI SIGNax WITH DOTSafHANDED INTERLACED PENTAGRAMafPOINTING ANGLE BRACKETaoCURVED ANGLE ",
   "BRACKETaoDOUBLE ANGLE QUOTATION MARKaoMAGNIFYING GLASSafSHADED WHITE RIGHTWARDS ARROWagIDE",
   " ARC ANTICLOCKWISE ARROWafTO-RIGHT EMBEDDINGaoISOLATEaoMARKaoOVERRIDEaeWARDS ARROWap ABOVE",
   " ALMOST EQUAL TOawREVERSE ALMOST EQUAL TObeTILDE OPERATORawSHORT RIGHTWARDS ARROWawTILDE O",
   "PERATORarND UPPER AND LOWER ONE EIGHTH BLOCKaqFROM BARay TO BLACK DIAMONDaqOVER RIGHTWARDS",
   " ARROWaqTHROUGH LESS-THANaySUBSETayXarO BARaw OVER RIGHTWARDS ARROW TO BARauLACK DIAMONDaq",
   "WITH DOTTED STEMaxUBLE VERTICAL STROKEavEQUILATERAL ARROWHEADavHOOKavLARGE TRIANGLE ARROWH",
   "EADawOOPavMEDIUM TRIANGLE ARROWHEADavNOTCHED TAILavPLUS BELOWavSMALL EQUILATERAL ARROWHEAD",
   "bbTRIANGLE ARROWHEADawTROKEavTAILaz WITH DOUBLE VERTICAL STROKEbfVERTICAL STROKEawIP DOWNW",
   "ARDSazUPWARDSavVERTICAL STROKEap-TAILakBACK-TILTED SHADOWED WHITE ARROWalLACK ARROWaqCIRCL",
   "ED WHITE ARROWalOTTOM-SHADED WHITE ARROWakCOMPRESSED ARROWakDASHED ARROWalOUBLE ARROWaw FR",
   "OM BARaxWITH STROKEbcVERTICAL STROKEaw-TAILarDASH ARROWakFINGER-POST ARROWalRONT-TILTED SH",
   "ADOWED WHITE ARROWakHANDamRPOON OVER RIGHTWARDS HARPOONasWITH BARB DOWN ABOVE RIGHTWARDS H",
   "ARPOON WITH BARB DOWNbhBELOW LONG DASHbhFROM BARbhTO BARbgWARDSbcUP ABOVE LEFTWARDS HARPOO",
   "N WITH BARB DOWNbmONG DASHblRIGHTWARDS HARPOON WITH BARB UPbfFROM BARbfTO BARbeWARDSalEAVY",
   " ARROWaqCOMPRESSED ARROWakLEFT-SHADED WHITE ARROWakOPEN-HEADED ARROWakPAIRED ARROWSakQUADR",
   "UPLE ARROWakRIGHT-SHADED WHITE ARROWalOCKETakSANS-SERIF ARROWalQUARED ARROWanIGGLE ARROWak",
   "TOP SHADED WHITE ARROWalRIANGLE ARROWHEADas-HEADED ARROWbf OVER RIGHTWARDS TRIANGLE-HEADED",
   " ARROWbgTO BARbgWITH BOLD SHAFTblDOUBLE HORIZONTAL STROKEbsVERTICAL STROKEblHEAVY SHAFTblL",
   "ONG TIP DOWNWARDSbuUPWARDSblMEDIUM SHAFTblNARROW SHAFTblVERY HEAVY SHAFTbaDASHED ARROWbaPA",
   "IRED ARROWSanPLE ARROWarDASH ARROWalWO HEADED ARROWan-HEADED ARROW FROM BARbbWITH DOUBLE V",
   "ERTICAL STROKEbgTAILbk WITH DOUBLE VERTICAL STROKEbqVERTICAL STROKEbhRIANGLE ARROWHEADSbgV",
   "ERTICAL STROKEavTRIPLE DASH ARROWakWAVE ARROWalHITE ARROWav WITHIN TRIANGLE ARROWHEADacGac",
   "MONacOadPARDacPCHA CONSONANT SIGN KaxANGawLawMawNaxYIN-DOawPawRawTahDIGIT EIGHTanFIVEaoOUR",
   "anNINEanONEanSEVENaoIXanTHREEaoWOanZEROahLETTER AaoBAapLAaoCAapHAaoDAapDAapZAaoFAapLAaoGAa",
   "pLAaoHAapLAaoJAaoKAapHAapLAaoLAaoMAapLAaoNAapGAapYAaoPAapHAapLAaoRAaoSAapHAaoTAapHAapSAaqH",
   "AapTAaqHAaoVAaoWAaoYAahPUNCTUATION CER-WAatNYET THYOOM TA-ROLatTA-ROLauSHOOKaz CER-WAahSIG",
   "N NUKTAamRANaiUBJOINED LETTER RAayYAahVOWEL SIGN AAasEasIasOatOasUatUacSS-THAN ABOVE DOUBL",
   "E-LINE EQUAL ABOVE GREATER-THANaqGREATER-THAN ABOVE DOUBLE-LINE EQUALaqLEFTWARDS ARROWaqSI",
   "MILAR ABOVE GREATER-THANayOR EQUALarLANTED EQUAL ABOVE GREATER-THAN ABOVE SLANTED EQUALalN",
   "D NOT APPROXIMATEaoSINGLE-LINE NOT EQUAL TOakBUT NOT EQUAL TOavIVALENT TOakCLOSED BY CURVE",
   "az ABOVE SLANTED EQUALakEQUAL TO OR GREATER-THANakOR APPROXIMATEanEQUAL TOaqIVALENT TOanGR",
   "EATER-THANanSLANTED EQUAL TObd WITH DOT ABOVEbs RIGHTbnINSIDEalVER EQUAL TOakSIGNakWITH CI",
   "RCLE INSIDEapDOTapQUESTION MARK ABOVEacVEL SLIDERabFabIBRAacGATURE OPEN ET ORNAMENTadHT CH",
   "ECK MARKagEIGHT SPOKED ASTERISKagFIVE POINTED BLACK STARalSPOKED ASTERISKahOUR POINTED BLA",
   "CK CUSPazSTARagGREEK CROSSagLEFT TORTOISE SHELL BRACKET ORNAMENTagRAILahIGHT TORTOISE SHEL",
   "L BRACKET ORNAMENTagSALTIREahHADEahIX SPOKED ASTERISKagTHREE POINTED BLACK STARahWELVE POI",
   "NTED BLACK STARagVERTICAL BARagWHITE SQUAREafNINGaj MOODao BUBBLEacMBU DIGIT EIGHTamFIVEan",
   "OURamNINEamONEamSEVENanIXamTHREEanWOamZEROagEXCLAMATION MARKagLETTER BAaoHAanCAaoHAanDAaoH",
   "AanGAaoHAaoYANanHAanJAaoHAanKAaoHAanLAanMAanNAaoGAanPAaoHAanRAanSAaoHAaoSAanTAaoHAaoRAanWA",
   "anYAapNagQUESTION MARKagSIGN KEMPHRENGalLOOalMUKPHRENGalSA-IahMALL LETTER ANUSVARAatKAatLA",
   "atMAatNAauGAatPAatRAatTAahUBJOINED LETTER RAaxWAaxYAagVOWEL SIGN AasIasUarEasEarIarOasOarU",
   "al-CARRIER LETTERadITED LIABILITY SIGNacNE FEEDafINTEGRATION NOT INCLUDING THE POLEarWITH ",
   "RECTANGULAR PATH AROUND POLEawSEMICIRCULAR PATH AROUND POLEafSEPARATORafTABULATIONap SETae",
   "AR A SIGN A028Bap100-102aq20Baq31Cap301ar2ar3ar4ar5ar6ar7ar8ar9AasBasCaq10ar1ar2ar3AasBasC",
   "ar4ar5ar6ar7ar8ar9aq20ar1ar2ar3ar4ar5ar6ar7ar8ar9aq30ar1ar2ar3ar4ar5ar6ar7ar8ar9aq40ar1ar2",
   "ar3ar4ar5ar6ar7ar8ar9aq50ar1ar2ar3ar4ar5ar6ar7ar8ar9aq60ar1ar2ar3ar4ar5ar6ar7ar8ar9aq70ar1",
   "ap400-VASar1-VASar2-VASar3-VASar4-VASar5-VASar6-VASar7-VASar8-VASar9-VASaq10-VASar1-VASar2",
   "-VASar3-VASar4-VASar5-VASar6-VASar7-VASar8-VASap501ar2ar3ar4ar5ar6ar8ar9aq10ar1ar2ar3ar5ar",
   "6aq20ar1ar3ar4ar5ar6ar7ar8ar9aq30ar1ar2ar4ar5ar6ar7ar8ar9aq40ar1ar2ar5ar7ar8ar9aq50ar1ar2a",
   "r3ar4ar5ar6ar7ar9aq63ar4ar5ar6ar8ar9aq70ar1ar2ar3ar4ar5ar6ar7ar8ar9aq80ar1ar2ar3ar4ar5ar6a",
   "r7ar8ar9aq91ar2ar4ar5ar6ar8ap600ar1ar2ar3ar4ar6ar8ar9aq10ar1ar2ar3ar4ar5ar6ar7ar8ar9aq20ar",
   "1ar2ar3ar4ar6ar7ar8ar9aq34ar7ar8aq40ar2ar3ar4ar5ar6ar8ar9aq51ar2ar3ar4ar5ar6ar7ar8ar9aq60a",
   "r1ar2ar3ar4ap701 Aar2 Bar3 Dar4 Ear5 Far6 Har7 Jar8 Kar9 Las-2 L2at3 L3at4 L4at6 L6aq10 Wa",
   "r1 Xar2 Yar3 OMEGAar4 ABBar5 BBar7 DDaq26 EYYYaq32 JEap800ar1ar2ar3ar4ar5ar6ar7apB001as2as",
   "3as4as5as6as7as8as9ar10as1as3as6as7ar20as1atFatMas2atFatMas3atMas4as6as7as8as9ar30as1as4as",
   "7as8as9ar40as1as4as5as6as7as8as9ar50as1as3as4as5as6as7as8as9ar60as1as5as6as7as9ar70as3as4a",
   "s6as7as8as9ar80as1as2as5as6as7aq118ar20as2as3ar31AatBar64ar71ar80as8ar91ahB IDEOGRAM B100 ",
   "MANav2 WOMANav4 DEERav5 EQUIDawF MAREawM STALLIONav6F EWEawM RAMav7F SHE-GOATawM HE-GOATav",
   "8F SOWawM BOARav9F COWawM BULLau20 WHEATav1 BARLEYav2 OLIVEav3 SPICEav5 CYPERUSau30 OILav1",
   " WINEav2au40 BRONZEav1 GOLDav2av5 WOOLav6au50av1 HORNav2av3av4av7av8av9 CLOTHau60av1av2 GA",
   "RMENTav3 ARMOURav4av5av6av7av8av9au70av1av2av3 MONTHav4av6 TREEav7av8av9au80av1av2av3av4av",
   "5av9au90av1 HELMETat220 FOOTSTOOLav5 BATHTUBau30 SPEARav1 ARROWav2av3 SWORDav4av6au40 WHEE",
   "LED CHARIOTav1 CHARIOTav2 CHARIOT FRAMEav3 WHEELav5av6av8av9au51av2av3av4 DARTav5av6av7av8",
   "av9asVESSEL B155ba200bc1bc2bc3bc4bc5bc6bc7bc8bc9bb10bc1bc2bc3bc4bc5bc6bc7bc8bc9bb21bc2bc6b",
   "c7bc8bc9bb50ba305ajMONOGRAM B127 KAPOav8 KANAKOau33 AREPAav5 MERIau56 TURO2at247 DIPTEajSY",
   "LLABLE B001 DAav2 ROav3 PAav4 TEav5 TOav6 NAav7 DIav8 Aav9 SEau10 Uav1 POav2 SOav3 MEav4 D",
   "Oav5 MOav6 QAav7 ZAau20 ZOav1 QIav3 MUav4 NEav5 A2av6 RUav7 REav8 Iav9 PU2au30 NIav1 SAav2",
   " QOav3 RA3av6 JOav7 TIav8 Eav9 PIau40 WIav1 SIav2 WOav3 A3av4 KEav5 DEav6 JEav8 NWAau50 PU",
   "av1 DUav2 NOav3 RIav4 WAav5 NUav7 JAav8 SUav9 TAau60 RAav1 Oav2 PTEav5 JUav6 TA2av7 KIav8 ",
   "RO2av9 TUau70 KOav1 DWEav2 PEav3 MIav4 ZEav5 WEav6 RA2av7 KAav8 QEau80 MAav1 KUav5 AUav7 T",
   "WEau90 DWOav1 TWOalMBOL B018at9as22as34as47at9as56as63at4as79as82at3at6at9adK SYMBOLaeED P",
   "APERCLIPSacON FACEacPSaeTICKacRA SIGNacSU LETTER AanEamBAamCAanHAamDAanZAamEanUamFAamGAanH",
   "AamHAanHAamIamJAamKAanHAamLAamMAamNAanGAamOanEamPAanHAamSAanHAamTAanHAanONE MYA BOavCYAavJ",
   "EUavNAavTIarNA POanSAaoHAamUanEanHamWAamXAamYAanHAamZAanHAafPUNCTUATION COMMAarFULL STOPac",
   "VRE TOURNOIS SIGNacZARDabLAMAabOBSTERacCKae WITH INK PENaeING-SHIFT ONEaoZEROacGICAL ANDal",
   " WITH DOT ABOVEatUBLE OVERBARayUNDERBARarHORIZONTAL DASHarMIDDLE STEMarUNDERBARaiORak OVER",
   "LAPPING LOGICAL ANDalWITH DOT ABOVEasUBLE OVERBARaxUNDERBARaqHORIZONTAL DASHaqMIDDLE STEMa",
   "cLLIPOPacNG DASH FROM LEFT MEMBER OF DOUBLE VERTICALagIVISIONagRUMafLEFT RIGHT ARROWaqDOUB",
   "LE ARROWakTACKajWARDS ARROWau FROM BARapDOUBLE ARROWbb FROM BARapSQUIGGLE ARROWafRIGHT TAC",
   "KakWARDS ARROWav FROM BARaqDOUBLE ARROWbc FROM BARaqSQUIGGLE ARROWacTION BOTTLEadUSacUDLY ",
   "CRYING FACEacVE HOTELafLETTERacW ASTERISKaeBATTERYafRIGHTNESS SYMBOLaeDOUBLE PRIME QUOTATI",
   "ON MARKaeKAVYKAak WITH DOTaeLINEadER BLADE SCISSORSagFIVE EIGHTHS BLOCKagHALF BLOCKalCIRCL",
   "EalINVERSE WHITE CIRCLEalMEDIUM SHADEagLEFT BALLPOINT PENamLOCK DIAGONAL LOWER MIDDLE LEFT",
   " TO LOWER CENTREcbRIGHTbaUPPER CENTRE TO LOWER MIDDLE RIGHTbwRIGHTbqUPPER MIDDLE RIGHTbgLE",
   "FT TO LOWER CENTREbuMIDDLE RIGHTboUPPER MIDDLE RIGHTbgMIDDLE LEFT TO LOWER CENTREcbMIDDLE ",
   "RIGHTcbRIGHTalCRAYONalFOUNTAIN PENalPAINTBRUSHamENCILalQUADRANT CIRCULAR ARCalSEMICIRCULAR",
   " ANTICLOCKWISE ARROWalTRIANGLEarULAR MEDIUM SHADEagONE EIGHTH BLOCKakQUARTER BLOCKagRIGHT ",
   "BLOCK DIAGONAL LOWER CENTRE TO LOWER MIDDLE RIGHTbrUPPER MIDDLE RIGHTbxRIGHTbhLEFT TO LOWE",
   "R MIDDLE RIGHTbpUPPER CENTREbvMIDDLE RIGHTbhMIDDLE LEFT TO UPPER CENTREccMIDDLE RIGHTccRIG",
   "HTbbUPPER MIDDLE LEFT TO UPPER CENTREccRIGHTamCORNER WITH DOTamDROP-SHADOWED WHITE SQUAREa",
   "mPENCILamQUADRANT CIRCULAR ARCamSEMICIRCULAR CLOCKWISE ARROWanHADOWED WHITE CIRCLEbbSQUARE",
   "amTRIANGLEasULAR MEDIUM SHADEagSEVEN EIGHTHS BLOCKagTHREE EIGHTHS BLOCKamQUARTERS BLOCKahR",
   "IANGULAR ONE QUARTER BLOCKacZENGEah DIVIDED BY HORIZONTAL RULEabREacIacMacOabUGGAGEacNGSab",
   "YCIAN LETTER AapNaoBapHaoDaoEapNaoGaoHaoIaoJaoKapKaoLaoMapMaoNapNaoPaoQaoRaoSaoTapHapTaoUa",
   "oWaoXaoZacDIAN LETTER AapNaoBaoCaoDaoEapNaoFaoGaoIaoKaoLapYaoMaoNapNaoOaoQaoRaoSapSaoTapTa",
   "oUaoVaoYahTRIANGULAR MARKacING FACEaaMACRONacGEadIC WANDadNETacHAJANI ABBREVIATION SIGNajL",
   "ETTER AaqBAarHAaqCAarHAaqDAarDAasHAarHAaqEaqGAarHAaqHAaqIaqJAarHAaqKAarHAaqLAaqMAaqNAarNAa",
   "rYAaqOaqPAarHAaqRAarRAaqSAaqTAarHAarTAasHAaqUaqVAakIGATURE SHRIajSECTION MARKakIGN NUKTAad",
   "JONG TILE AUTUMNanBACKapMBOOanCHRYSANTHEMUManEAST WINDaoIGHT OF BAMBOOSawCHARACTERSaxIRCLE",
   "SanFIVE OF BAMBOOSavCHARACTERSawIRCLESaoOUR OF BAMBOOSavCHARACTERSawIRCLESanGREEN DRAGONan",
   "JOKERanNINE OF BAMBOOSavCHARACTERSawIRCLESaoORTH WINDanONE OF BAMBOOSauCHARACTERSavIRCLESa",
   "oRCHIDanPLUManRED DRAGONanSEVEN OF BAMBOOSawCHARACTERSaxIRCLESaoIX OF BAMBOOSauCHARACTERSa",
   "vIRCLESaoOUTH WINDaoPRINGaoUMMERanTHREE OF BAMBOOSawCHARACTERSaxIRCLESaoWO OF BAMBOOSauCHA",
   "RACTERSavIRCLESanWEST WINDaoHITE DRAGONaoINTERacKASAR ANGKAaiEND OF SECTIONaiLETTER AapBAa",
   "pCAapDAapGAapJAapKAapLAapMAapNAaqGAaqYAapPAapRAapSAapTAapVAapYAaiPASSIMBANGaiVOWEL SIGN Ea",
   "tIatOatUacLAYALAM AU LENGTH MARKakDATE MARKalIGIT EIGHTaqFIVEarOURaqNINEaqONEaqSEVENarIXaq",
   "THREEarWOaqZEROakFRACTION ONE EIGHTHaxFIFTHayORTIETHaxHALFaxONE-HUNDRED-AND-SIXTIETHaxQUAR",
   "TERaxSIXTEENTHaxTENTHayWENTIETHatTHREE EIGHTIETHSazQUARTERSazSIXTEENTHSazTWENTIETHSakLETTE",
   "R AasAasIasRCHAIC IIasUarBAasHAarCAasHAatILLU KayLazLbaLayMayNazNayRRayYarDAasDAatHAasHAas",
   "OT REPHarEasEarGAasHAarHAarIasIarJAasHAarKAasHAarLAasLAatLAarMAarNAasGAasNAatNAasYAarOasOa",
   "rPAasHAarRAasRAarSAasHAasSAarTAasHAasTAatHAatTAarUasUarVAasEDIC ANUSVARAasOCALIC LbaLazRba",
   "RarYAakNUMBER ONE HUNDREDavTHOUSANDarTENakSIGN ANUSVARAaqVAGRAHAapCANDRABINDUaqIRCULAR VIR",
   "AMAaqOMBINING ANUSVARA ABOVEapPARAapVERTICAL BAR VIRAMAaqIRAMAarSARGAakVOWEL SIGN AAawIawU",
   "avEawEavIawIavOawOavUawUavVOCALIC LbeLbdRbeRadE AND FEMALE SIGNafSIGNafWITH STROKE AND MAL",
   "E AND FEMALE SIGNarSIGNadTESE CROSSacMMOTHacNad AND WOMAN HOLDING HANDSaeDANCINGaeIN BUSIN",
   "ESS SUIT LEVITATINGahTUXEDOaeWITH GUA PI MAOajTURBANadAT SIGNadDAIC AFFRICATION MARKaiGEMI",
   "NATION MARKaiLETTER ABaqDaqGaqHaqINaqKarSAaqLaqMaqNaqPaqQaqRaqSarHarZaqTarTaqZapDUSHENNAap",
   "HALQAapINaqTapKADapUSHENNAaiPUNCTUATIONaiVOCALIZATION MARKadGOadICHAEAN ABBREVIATION MARK ",
   "ABOVEbdBELOWalLETTER AAYINatLEPHatYINasBETHatHETHasDALETHatHAMEDHasFEasGHIMELatIMELasHEauT",
   "HasJAYINatHAYINasKAPHatHAPHasLAMEDHasMEMasNUNasPEasQHOPHatOPHasRESHasSADHEauMEKHatHINatSHI",
   "NasTAWatETHatHAMEDHasWAWasXAPHatOPHasYODHasZAYINatHAYINalNUMBER FIVEasONEav HUNDREDasTENat",
   "WENTYalPUNCTUATION DOTba WITHIN DOTazUBLE DOT WITHIN DOTaxFLEURONaxLINE FILLERaxSTARaxTWO ",
   "DOTSalSIGN UDadS SHOEadTELPIECE CLOCKadUAL WHEELCHAIRacP SYMBOL FOR LIGHTHOUSEadLE LEAFacR",
   "CHEN HEAD MARKaiLETTER -AapAapBAapCAaqHAapDAaqZAapGAapHAapJAapKAaqHAapLAapMAapNAaqGAaqYAap",
   "PAaqHAapRAapSAaqHAapTAaqHAaqSAarHAapWAapYAapZAaqHAaiMARK SHADaiSIGN ANUSVARAanCANDRABINDUa",
   "jUBJOINED LETTER AazBAazCAbaHAazDAbaZAazGAazHAazJAazKAbaHAazLAazMAazNAbaGAbaYAazPAbaHAazRA",
   "azSAbaHAazTAbaHAbaSAbbHAazWAazYAazZAbaHAaiVOWEL SIGN AAatEatIatOatUadRIAGE SYMBOLadTIAL AR",
   "TS UNIFORMacSARAM GONDI DIGIT EIGHTauFIVEavOURauNINEauONEauSEVENavIXauTHREEavWOauZEROaoLET",
   "TER AawAawIawUavBAawHAavCAawHAavDAawDAaxHAawHAavEavGAawHAavHAavIawIavJAawHAawNYAavKAawHAaw",
   "SSAavLAawLAavMAavNAawGAawNAawYAavOavPAawHAavRAavSAawHAawSAavTAawHAawRAawTAaxHAavUawUavVAav",
   "YAaoRA-KARAapEPHAaoSIGN ANUSVARAatCANDRAatHALANTAatNUKTAatVISARGAaoVIRAMAapOWEL SIGN AAbaI",
   "baUazEazIbaIazOazUbaUazVOCALIC RadCULINE ORDINAL INDICATORadK WORK SYMBOLadU MARKacTE DRIN",
   "KadHEMATICAL BOLD CAPITAL AbbLPHAbaBbbETAbaCbbHIbaDbbELTAbbIGAMMAbaEbbPSILONbbTAbaFbaGbbAM",
   "MAbaHbaIbbOTAbaJbaKbbAPPAbaLbbAMDAbaMbbUbaNbbUbaObbMEGAbcICRONbaPbbHIbbIbbSIbaQbaRbbHObaSb",
   "bIGMAbaTbbAUbbHETAbf SYMBOLbaUbbPSILONbaVbaWbaXbbIbaYbaZbbETAasDIGIT EIGHTayFIVEazOURayNIN",
   "EayONEaySEVENazIXayTHREEazWOayZEROasEPSILON SYMBOLasFRAKTUR CAPITAL AbiBbiCbiDbiEbiFbiGbiH",
   "biIbiJbiKbiLbiMbiNbiObiPbiQbiRbiSbiTbiUbiVbiWbiXbiYbiZbaSMALL AbgBbgCbgDbgEbgFbgGbgHbgIbgJ",
   "bgKbgLbgMbgNbgObgPbgQbgRbgSbgTbgUbgVbgWbgXbgYbgZasITALIC CAPITAL AbiLPHAbhBbiETAbhCbiHIbhD",
   "biELTAbhEbiPSILONbiTAbhFbhGbiAMMAbhHbhIbiOTAbhJbhKbiAPPAbhLbiAMDAbhMbiUbhNbiUbhObiMEGAbjIC",
   "RONbhPbiHIbiIbiSIbhQbhRbiHObhSbiIGMAbhTbiAUbiHETAbm SYMBOLbhUbiPSILONbhVbhWbhXbiIbhYbhZbiE",
   "TAazEPSILON SYMBOLazKAPPA SYMBOLazNABLAazPARTIAL DIFFERENTIALbaHI SYMBOLbaI SYMBOLazRHO SY",
   "MBOLazSMALL AbgLPHAbfBbgETAbfCbgHIbfDbgELTAbfEbgPSILONbgTAbfFbgINAL SIGMAbfGbgAMMAbfHbfIbg",
   "OTAbfJbfKbgAPPAbfLbgAMDAbfMbgUbfNbgUbfObgMEGAbhICRONbfPbgHIbgIbgSIbfQbfRbgHObfSbgIGMAbfTbg",
   "AUbgHETAbfUbgPSILONbfVbfWbfXbgIbfYbfZbgETAazTHETA SYMBOLasKAPPA SYMBOLasNABLAasPARTIAL DIF",
   "FERENTIALatHI SYMBOLatI SYMBOLasRHO SYMBOLasSCRIPT CAPITAL AbhBbhCbhDbhEbhFbhGbhHbhIbhJbhK",
   "bhLbhMbhNbhObhPbhQbhRbhSbhTbhUbhVbhWbhXbhYbhZazSMALL AbfBbfCbfDbfEbfFbfGbfHbfIbfJbfKbfLbfM",
   "bfNbfObfPbfQbfRbfSbfTbfUbfVbfWbfXbfYbfZatMALL AazLPHAayBazETAayCazHIayDazELTAazIGAMMAayEaz",
   "PSILONazTAayFazINAL SIGMAayGazAMMAayHayIazOTAayJayKazAPPAayLazAMDAayMazUayNazUayOazMEGAbaI",
   "CRONayPazHIazIazSIayQayRazHOaySazIGMAayTazAUazHETAayUazPSILONayVayWayXazIayYayZazETAasTHET",
   "A SYMBOLanDOUBLE-STRUCK CAPITAL AbjBbjDbjEbjFbjGbjIbjJbjKbjLbjMbjObjSbjTbjUbjVbjWbjXbjYbbD",
   "IGIT EIGHTbhFIVEbiOURbhNINEbhONEbhSEVENbiIXbhTHREEbiWObhZERObbSMALL AbhBbhCbhDbhEbhFbhGbhH",
   "bhIbhJbhKbhLbhMbhNbhObhPbhQbhRbhSbhTbhUbhVbhWbhXbhYbhZanFALLING DIAGONALaoRAKTUR CAPITAL A",
   "bdBbdDbdEbdFbdGbdJbdKbdLbdMbdNbdObdPbdQbdSbdTbdUbdVbdWbdXbdYavSMALL AbbBbbCbbDbbEbbFbbGbbH",
   "bbIbbJbbKbbLbbMbbNbbObbPbbQbbRbbSbbTbbUbbVbbWbbXbbYbbZanITALIC CAPITAL AbdLPHAbcBbdETAbcCb",
   "dHIbcDbdELTAbcEbdPSILONbdTAbcFbcGbdAMMAbcHbcIbdOTAbcJbcKbdAPPAbcLbdAMDAbcMbdUbcNbdUbcObdME",
   "GAbeICRONbcPbdHIbdIbdSIbcQbcRbdHObcSbdIGMAbcTbdAUbdHETAbh SYMBOLbcUbdPSILONbcVbcWbcXbdIbcY",
   "bcZbdETAauEPSILON SYMBOLauKAPPA SYMBOLauNABLAauPARTIAL DIFFERENTIALavHI SYMBOLavI SYMBOLau",
   "RHO SYMBOLauSMALL AbbLPHAbaBbbETAbaCbbHIbaDbbELTAbbOTLESS IbiJbaEbbPSILONbbTAbaFbbINAL SIG",
   "MAbaGbbAMMAbaIbbOTAbaJbaKbbAPPAbaLbbAMDAbaMbbUbaNbbUbaObbMEGAbcICRONbaPbbHIbbIbbSIbaQbaRbb",
   "HObaSbbIGMAbaTbbAUbbHETAbaUbbPSILONbaVbaWbaXbbIbaYbaZbbETAauTHETA SYMBOLanLEFT ANGLE BRACK",
   "ETasDOUBLE ANGLE BRACKETasFLATTENED PARENTHESISasWHITE SQUARE BRACKETayTORTOISE SHELL BRAC",
   "KETanMONOSPACE CAPITAL AbfBbfCbfDbfEbfFbfGbfHbfIbfJbfKbfLbfMbfNbfObfPbfQbfRbfSbfTbfUbfVbfW",
   "bfXbfYbfZaxDIGIT EIGHTbdFIVEbeOURbdNINEbdONEbdSEVENbeIXbdTHREEbeWObdZEROaxSMALL AbdBbdCbdD",
   "bdEbdFbdGbdHbdIbdJbdKbdLbdMbdNbdObdPbdQbdRbdSbdTbdUbdVbdWbdXbdYbdZanRIGHT ANGLE BRACKETatD",
   "OUBLE ANGLE BRACKETatFLATTENED PARENTHESISatWHITE SQUARE BRACKETazTORTOISE SHELL BRACKETap",
   "SING DIAGONALanSANS-SERIF BOLD CAPITAL AbmLPHAblBbmETAblCbmHIblDbmELTAblEbmPSILONbmTAblFbl",
   "GbmAMMAblHblIbmOTAblJblKbmAPPAblLbmAMDAblMbmUblNbmUblObmMEGAbnICRONblPbmHIbmIbmSIblQblRbmH",
   "OblSbmIGMAblTbmAUbmHETAbq SYMBOLblUbmPSILONblVblWblXbmIblYblZbmETAbdDIGIT EIGHTbjFIVEbkOUR",
   "bjNINEbjONEbjSEVENbkIXbjTHREEbkWObjZERObdEPSILON SYMBOLbdITALIC CAPITAL AbtLPHAbsBbtETAbsC",
   "btHIbsDbtELTAbsEbtPSILONbtTAbsFbsGbtAMMAbsHbsIbtOTAbsJbsKbtAPPAbsLbtAMDAbsMbtUbsNbtUbsObtM",
   "EGAbuICRONbsPbtHIbtIbtSIbsQbsRbtHObsSbtIGMAbsTbtAUbtHETAbx SYMBOLbsUbtPSILONbsVbsWbsXbtIbs",
   "YbsZbtETAbkEPSILON SYMBOLbkKAPPA SYMBOLbkNABLAbkPARTIAL DIFFERENTIALblHI SYMBOLblI SYMBOLb",
   "kRHO SYMBOLbkSMALL AbrLPHAbqBbrETAbqCbrHIbqDbrELTAbqEbrPSILONbrTAbqFbrINAL SIGMAbqGbrAMMAb",
   "qHbqIbrOTAbqJbqKbrAPPAbqLbrAMDAbqMbrUbqNbrUbqObrMEGAbsICRONbqPbrHIbrIbrSIbqQbqRbrHObqSbrIG",
   "MAbqTbrAUbrHETAbqUbrPSILONbqVbqWbqXbrIbqYbqZbrETAbkTHETA SYMBOLbdKAPPA SYMBOLbdNABLAbdPART",
   "IAL DIFFERENTIALbeHI SYMBOLbeI SYMBOLbdRHO SYMBOLbdSMALL AbkLPHAbjBbkETAbjCbkHIbjDbkELTAbj",
   "EbkPSILONbkTAbjFbkINAL SIGMAbjGbkAMMAbjHbjIbkOTAbjJbjKbkAPPAbjLbkAMDAbjMbkUbjNbkUbjObkMEGA",
   "blICRONbjPbkHIbkIbkSIbjQbjRbkHObjSbkIGMAbjTbkAUbkHETAbjUbkPSILONbjVbjWbjXbkIbjYbjZbkETAbdT",
   "HETA SYMBOLayCAPITAL AbgBbgCbgDbgEbgFbgGbgHbgIbgJbgKbgLbgMbgNbgObgPbgQbgRbgSbgTbgUbgVbgWbg",
   "XbgYbgZayDIGIT EIGHTbeFIVEbfOURbeNINEbeONEbeSEVENbfIXbeTHREEbfWObeZEROayITALIC CAPITAL Abn",
   "BbnCbnDbnEbnFbnGbnHbnIbnJbnKbnLbnMbnNbnObnPbnQbnRbnSbnTbnUbnVbnWbnXbnYbnZbfSMALL AblBblCbl",
   "DblEblFblGblHblIblJblKblLblMblNblOblPblQblRblSblTblUblVblWblXblYblZaySMALL AbeBbeCbeDbeEbe",
   "FbeGbeHbeIbeJbeKbeLbeMbeNbeObePbeQbeRbeSbeTbeUbeVbeWbeXbeYbeZaoCRIPT CAPITAL AbcCbcDbcGbcJ",
   "bcKbcNbcObcPbcQbcSbcTbcUbcVbcWbcXbcYbcZauSMALL AbaBbaCbaDbaFbaHbaIbaJbaKbaLbaMbaNbaPbaQbaR",
   "baSbaTbaUbaVbaWbaXbaYbaZacXIMIZEacYAN NUMERAL EIGHTatEENapLEVENaoFIFTEENaqVEapOURasTEENaoN",
   "INEasTEENaoONEaoSEVENatTEENapIXarTEENaoTENapHIRTEENaqREEapWELVEaqOaoZEROabEASURED ANGLEao ",
   "OPENING LEFTapWITH OPEN ARM ENDING IN ARROW POINTING DOWN AND LEFTclRIGHTccLEFT AND DOWNcl",
   "UPccRIGHT AND DOWNcmUPccUP AND LEFTcjRIGHTajBYajRIGHT ANGLE WITH DOTadT ON BONEacCHANICAL ",
   "ARMalLEGacDEFAIDRIN CAPITAL LETTER AbcIbcTIUbbBbbCbbDbbEbbFbbGbbHbcPbbIbbJbbKbcPbbLbbMbbNb",
   "cGbcYbbObcEbbPbbQbbRbbSbbTbbUbbVbbWbbXbbYbcUbbZanOMMAamDIGIT EIGHTasFIVEatOURasNINEasONEav",
   " ALTERNATE FORMasSEVENatIXasTHREEax ALTERNATE FORMatWOav ALTERNATE FORMasZEROamEXCLAMATION",
   " OHamFULL STOPamNUMBER EIGHTEENauLEVENatFIFTEENauOURTEENatNINETEENatSEVENTEENauIXTEENatTEN",
   "auHIRTEENauWELVEamSMALL LETTER AbaIbaTIUazBazCazDazEazFazGazHbaPazIazJazKbaPazLazMazNbaGba",
   "YazObaEazPazQazRazSazTazUazVazWazXazYbaUazZanYMBOL AIVAadIEVAL COMMAajEXCLAMATION MARKajQU",
   "ESTION MARKaeUM BLACK CIRCLEaiOLD WHITE CIRCLEahEIGHT POINTED BLACK STARanSPOKED ASTERISKa",
   "hFIVE SPOKED ASTERISKaiLATTENED LEFT PARENTHESIS ORNAMENTarRIGHT PARENTHESIS ORNAMENTaiOUR",
   " POINTED BLACK STARauPINWHEEL STARahGREEK CROSSahLEFT CURLY BRACKET ORNAMENTamPARENTHESIS ",
   "ORNAMENTal-POINTING ANGLE BRACKET ORNAMENTahMATHEMATICAL SPACEahRIGHT CURLY BRACKET ORNAME",
   "NTanPARENTHESIS ORNAMENTam-POINTING ANGLE BRACKET ORNAMENTahSALTIREaiHADEaiIX POINTED BLAC",
   "K STARalSPOKED ASTERISKaiMALL WHITE CIRCLEahTHREE POINTED BLACK STARavPINWHEEL STARahVERTI",
   "CAL BARahWHITE CIRCLEanSQUAREacETEI MAYEK AHANG KHUDAMaoNJIaoPUN IYEKanCHEIKHANatEIanDIGIT",
   " EIGHTatFIVEauOURatNINEatONEatSEVENauIXatTHREEauWOatZEROanLETTER ATIYAauBAavHAMauCHAawILau",
   "DDAawHAavHOUavILauEauGHOUavOKauHUKauIav LONSUMauJHAMavILauKHOUavOKax LONSUMauLAIax LONSUMa",
   "uMITax LONSUMauNAaw LONSUMavGOUay LONSUMavNAavYAauOauPAaw LONSUMavHAMauRAIauSAMavHAavSAauT",
   "HOUavILax LONSUMavTAawHAauUNauWAIauYANGaoUM IYEKanSYLLABLE REPETITION MARKanVIRAMAaoOWEL S",
   "IGN AAIbaUazNAPazUayCHEINAPayIIazNAPayNUNGayONAPaySOUNAPayUNAPazUayVISARGAayYENAPanWORD RE",
   "PETITION MARKacLONadTING FACEacMOacNDE KIKAKUI COMBINING NUMBER HUNDRED THOUSANDSbmSbfMILL",
   "IONSbfTEENSbhN THOUSANDSbiSbgHOUSANDSaoDIGIT EIGHTauFIVEavOURauNINEauONEauSEVENavIXauTHREE",
   "avWOaoSYLLABLE M001 KIba2 KAba3 KUba4 WIba5 WAba6 WUba7 MINba8 MANba9 MUNaz10 BIba1 BAba2 ",
   "BUba3 Iba4 Aba5 Uba6 DIba7 DAba8 DUba9 SIaz20 SAba1 SUba2 TIba3 TAba4 TUba5 LIba6 LAba7 LU",
   "ba8 JIba9 JAaz30 JUba1 YIba2 YAba3 YUba4 FIba5 FAba6 FUba7 NINba8 NANba9 NUNaz40 HEEba1 HA",
   "ba2 HOOba3 NGGAba4 KPEEba5 WOba6 HUANba7 MBEEba8 KOba9 WVAaz50 PUba1 PEba2 HENba3 HINba4 L",
   "OOba5 TEba6 GBAba7 NGONba8 NYANba9 MENaz60 NYONba1 WVIba2 MBAba3 JOba4 NDOba5 KEEba6 POba7",
   " NDOOba8 PIba9 TOaz70 GBOba1 GBOOba2 MBEba3 LEba4 KPUba5 FEba6 KOOba7 VOba8 FEEba9 SOaz80 ",
   "YEba1 PEEba2 NGGUba3 HEEIba4 LEEba5 VEba6 LONG NGGEba7 HUNba8 FOba9 DEEaz90 NGGIba1 TEEba2",
   " KPAba3 GBEEba4 MONba5 KEba6 HEba7 BEba8 NYENba9 PAay100 Eba1 FANba2 POOba3 BOOba4 TOOba5 ",
   "LONG MBOOba6 LONG NGGOOba7 GBEba8 KPEba9 YEEaz10 LONG LEba1 GAba2 KPOOba3 JEba4 WOOba5 NGG",
   "EEba6 SEba7 NENba8 WEba9 NDEaz20 NGGOba1 YOba2 MBUba3 NDIba4 GBIba5 NDUba6 WEEba7 NGGUAba8",
   " HOOUba9 NDAaz30 HANba1 INba2 KPIba3 FOOba4 NJOOba5 INba6 SOOba7 EIba8 BOba9 WVEaz40 HOba1",
   " YOOba2 LONG MBOba3 WEIba4 VOOba5 MBIba6 NGGEba7 Oba8 GBUba9 NJEEaz50 BEEba1 VUba2 NJAba3 ",
   "LOba4 MUANba5 GIba6 NGGOOba7 JEEba8 KPOba9 NGGAAaz60 JOOba1 LONG MBEba2 SEEba3 EEba4 NYINb",
   "a5 OOba6 GUEIba7 GUANba8 GUba9 NONaz70 NYUNba1 RAba2 MBOOba3 VEEba4 MBOba5 LONG JOba6 HIba",
   "7 NGUANba8 ENba9 KUAaz80 DOOba1 DOba2 VIba3 LONG NGGOba4 NGENba5 VAba6 HUba7 MBUUba8 MBEEb",
   "a9 MUENaz90 GEEba1 NDEEba2 NJUba3 HONba4 WUIba5 ANba6 SIAba7 FUAadORAH WITH NINE BRANCHESa",
   "dS SYMBOLacRCURYadOITIC CURSIVE FRACTION EIGHT TWELFTHSbbLEVEN TWELFTHSbaFIVE TWELFTHSbbOU",
   "R TWELFTHSbaNINE TWELFTHSbaONE HALFbeTWELFTHbaSEVEN TWELFTHSbbIX TWELFTHSbaTEN TWELFTHSbbH",
   "REE TWELFTHSbbWO TWELFTHSarLETTER AazRCHAIC SAayBAayDAayEayHHAayIayKAazHAayLAayMAayNAazEay",
   "OayPAayQAayRAaySAazEayTAazEazOayWAayYAasOGOGRAM IMNbaRMTarNUMBER EIGHTbd HUNDREDbl THOUSAN",
   "DbeTHOUSANDbdY THOUSANDayFIFTYbd THOUSANDbaVEbc HUNDREDbk THOUSANDbdTHOUSANDazORTYbd THOUS",
   "ANDbaURbc HUNDREDbk THOUSANDbdTHOUSANDayNINEbc HUNDREDbk THOUSANDbdTHOUSANDbcTY THOUSANDay",
   "ONEbb HUNDREDbj THOUSANDbcTHOUSANDaySEVENbd HUNDREDbl THOUSANDbeTHOUSANDbdTYbf THOUSANDazI",
   "Xbb HUNDREDbj THOUSANDbcTHOUSANDbbTYbd THOUSANDayTENbb THOUSANDazHIRTYbe THOUSANDbaREEbd H",
   "UNDREDbl THOUSANDbeTHOUSANDazWENTYbe THOUSANDbaObb HUNDREDbj THOUSANDbcTHOUSANDajHIEROGLYP",
   "HIC LETTER AbdBAbf-2bdDAbdEbdHHAbdIbdKAbeHAbdLAbdMAbdNAbf-2beEbf-2bdObdPAbdQAbdRAbf-2bdSAb",
   "f-2beEbdTAbf-2beEbf-2beObdWAbdYAawSYMBOL VIDJbh-2adPERSONacSSAGE WAITINGacTRICAL BREVEajLO",
   "NG OVER SHORTatTWO SHORTSajPENTASEMEajSHORT OVER LONGajTETRASEMEakRISEMEakWO SHORTS JOINED",
   "auOVER LONGaeOabIAO LETTER AHanRCHAIC MAauNAavGAauZZAamBAanRIamDAanDAanLHAapYAanZAaoHAaoYI",
   "aoZAamFAamGAanHAaoHAamHAanHAamKAamLAanHAaoYAanYAamMAanHAamNAaoSALIZATIONanGAaoHAanHAanNAao",
   "HAanYAaoHAamPAanLAamQAanGAamREFORMED TONE-1ba2ba4ba5ba6ba8awSHAanTEamSAanHAanSAanYIamTAanE",
   "anLHAapYAanONE-2ar3ar4ar5ar6ar7ar8anSAaoEaoHAaoSAanTAamVAanFAamWAamXAamYI DZHAapKAapNNAapP",
   "AapTAaqSAarHAaqTAamZAanHAanSAaoHAanZAaoSAapYAaoYAafSIGN ASPIRATIONakCONSONANT MODIFIER BAR",
   "akREFORMED ASPIRATIONatVOICINGafTONE ABOVEakBELOWakRIGHTakTOP RIGHTafVOWEL SIGN AarAarEasE",
   "arHHarIarNasGarUaqEarAarIarNasGarRasRaqIarAasNatGarEarGarIarNGarOasNGarUaqNarGaqOarERasYar",
   "GarOarUaqROUNDED ERbaRaqUarAasNatGarEIarIarNGarOGarUaqVWaqWarOaqYarIarUIacCR DASH SYMBOLaf",
   "ON US SYMBOLaeO SIGNafBEafPHONEafSCOPEacDDLE DOTahTHIRD WHITE RIGHT POINTING INDEXadLINE H",
   "ORIZONTAL ELLIPSISacLITARY HELMETajMEDALadKY WAYadL SIGNacNIBUSaeDISCaeMIZEadUS SIGNak IN ",
   "TRIANGLEalWITH COMMA ABOVEaqDOT BELOWaqFALLING DOTSaqRISING DOTSagTILDEaf-OR-PLUS SIGNadYa",
   "cRRORag BALLabMSPabOBILE PHONEam OFFanWITH RIGHTWARDS ARROW AT LEFTacDELSaeRN PENTATHLONad",
   "I ABBREVIATION SIGNafDANDAagIGIT EIGHTalFIVEamOURalNINEalONEalSEVENamIXalTHREEamWOalZEROag",
   "OUBLE DANDAafLETTER AanAanIanUamBAanHAamCAanHAamDAanDAaoHAanHAamEamGAanHAamHAamIanIamJAanH",
   "AamKAanHAamLAanLAamMAamNAanGAanNAanYAamOamPAanHAamRAamSAanHAanSAamTAanHAanTAaoHAamUanUamVA",
   "anOCALIC LavLauRavRamYAafSIGN ANUSVARAalRDHACANDRAakHUVAakVIRAMAamSARGAafVOWEL SIGN AAarIa",
   "rUaqEaqIarIaqOaqUarUaqVOCALIC LazLayRazRaeFIER BREVE WITH INVERTED BREVEajLETTER ACUTE ACC",
   "ENTarLVEOLAR CLICKarPOSTROPHEaqBEGIN HIGH TONEawLOW TONEarILABIAL CLICKaqCAPITAL AazEayBaz",
   "ARRED BayCayDayEayFayGayHaz WITH STROKEayIayJayKayLayMayNayOazUayPayQayRazEVERSED EbhNayTa",
   "yUayVayWarENTRED LEFT HALF RINGayRIGHT HALF RINGarHINESE TONE YANG PINGbiQUbiRUbiSHANGbeIN",
   " PINGbhQUbhRUbhSHANGarIRCUMFLEX ACCENTarOLONarROSS ACCENTarYRILLIC ENazHARD SIGNazSOFT SIG",
   "NaqDENTAL CLICKarOT HORIZONTAL BARauSLASHauVERTICAL BARasUBLE APOSTROPHEaxPRIMEasWN ARROWH",
   "EADavTACKaqEND HIGH TONEauLOW TONEarXTRA-HIGH DOTTED LEFT-STEM TONE BARbiTONE BARbbLEFT-ST",
   "EM TONE BARbbTONE BARawLOW DOTTED LEFT-STEM TONE BARbhTONE BARbaLEFT-STEM TONE BARbaTONE B",
   "ARaqGEORGIAN NARarLOTTAL STOPbc WITH STROKEarRAVE ACCENTaqHALF TRIANGULAR COLONarIGH DOTTE",
   "D LEFT-STEM TONE BARbcTONE BARavLEFT-STEM TONE BARavTONE BARaqLATERAL CLICKarEFT ARROWHEAD",
   "avHALF RINGavTACKarOW ACUTE ACCENTauCIRCUMFLEX ACCENTauDOTTED LEFT-STEM TONE BARbbTONE BAR",
   "awWN ARROWHEADauGRAVE ACCENTauINVERTED EXCLAMATION MARKauLEFT ARROWbeHEADay-STEM TONE BARa",
   "uMACRONauRIGHT ARROWHEADawNGauTILDEavONE BARauUP ARROWHEADauVERTICAL LINEatER RIGHT CORNER",
   " ANGLEaqMACRONarID DOTTED LEFT-STEM TONE BARbbTONE BARauLEFT-STEM TONE BARauTONE BARatDLE ",
   "DOUBLE ACUTE ACCENTbeGRAVE ACCENTaxGRAVE ACCENTasNUS SIGNaqOPEN SHELFaqPLUS SIGNarRIMEaqRA",
   "ISED COLONaxDOWN ARROWaxEXCLAMATION MARKaxINVERTED EXCLAMATION MARKaxUP ARROWarETROFLEX CL",
   "ICK WITH RETROFLEX HOOKasVERSED COMMAazGLOTTAL STOPbl WITH STROKEarHOTIC HOOKarIGHT ARROWH",
   "EADawHALF RINGawTACKaqSHELFasORT EQUALS SIGNarMALL AaxEaxINaxLPHAawBax WITH HOOKaxARRED Oa",
   "xETAaxOTTOM HALF OawCax WITH CURLaxAPITAL AAbeBbeGbf WITH HOOKbeHbeIbf WITH STROKEbfNVERTE",
   "D RbeLbf WITH BELTbeNbeOEbeRbeUbeYaxHIaxLOSED OMEGAbdREVERSED OPEN EawDax WITH HOOKbh AND ",
   "TAILbdTAILaxELTAayZH DIGRAPHaxOTLESS J WITH STROKEbr AND HOOKaxZ DIGRAPHbg WITH CURLbmRETR",
   "OFLEX HOOKawEaxNGaxSHaxTHaxZHawFaxENG DIGRAPHawGax WITH HOOKaxAMMAaxREEK GAMMAbcPHIawHax W",
   "ITH HOOKbdSTROKEaxENGba WITH HOOKawI WITH STROKEaxOTAawJax WITH CROSSED-TAILawKawLax WITH ",
   "BELTbdINVERTED LAZY SbdMIDDLE TILDEbdPALATAL HOOKbdRETROFLEX HOOKbr AND BELTaxEZHba WITH R",
   "ETROFLEX HOOKaxIGATURE OEaxS DIGRAPHaxZ DIGRAPHawMax WITH HOOKawN WITH LEFT HOOKbdRETROFLE",
   "X HOOKawOax WITH STROKEaxPEN EbbOawPaxHIawQawRax WITH FISHHOOKbdTAILaxAMS HORNaxEVERSED Eb",
   "fGLOTTAL STOPbfOPEN EawSax WITH CURLbdHOOKaxCHWAayRIPT GaxIDEWAYS UawTax WITH PALATAL HOOK",
   "bdRETROFLEX HOOKaxC DIGRAPH WITH CURLaxESH DIGRAPHaxHETAaxOP HALF OaxS DIGRAPHbg WITH RETR",
   "OFLEX HOOKaxURNED AbeEbeLPHAbdHbdIbdMbe WITH LONG LEGbdOPEN EbdRbe WITH HOOKbkLONG LEGbs A",
   "ND RETROFLEX HOOKbdVbdWbdYbe WITH BELTawUax BARayWITH LEFT HOOKaxPSILONawVax WITH HOOKbdRI",
   "GHT HOOKawWawXawYawZax WITH CURLbdRETROFLEX HOOKarTRESS AND HIGH TONEbbLOW TONEarUPERSCRIP",
   "T HALF TRIANGULAR COLONbcTRIANGULAR COLONaqTRIANGULAR COLONarURNED COMMAaqUNASPIRATEDarP A",
   "RROWHEADatTACKarSaqVERTICAL LINEarOICINGaqYANG DEPARTING TONE MARKarIN DEPARTING TONE MARK",
   "adULO TWO SUMacNEY BAGagWITH WINGSaf-MOUTH FACEadGOLIAN BIRGAap WITH DOUBLE ORNAMENTavORNA",
   "MENTakCOLONamMMAakDIGIT EIGHTaqFIVEarOURaqNINEaqONEaqSEVENarIXaqTHREEarWOaqZEROalOUBLE BIR",
   "GA WITH ORNAMENTakELLIPSISakFOUR DOTSalREE VARIATION SELECTOR FOURbiONEbiTHREEbjWOalULL ST",
   "OPakINVERTED BIRGAay WITH DOUBLE ORNAMENTakLETTER AasLI GALI AbbHbbNUSVARA ONEbaBALUDAbaCA",
   "baDAbcGALGAbcMARUbbDAbaHALF UbfYAbaIbbNVERTED UBADAMAbaKAbaNGAbbNAbaPAbbHAbaSSAbaTAbbHREE ",
   "BALUDAbbTAbcHAbaUBADAMAbaVISARGA ONEbaZAbbHAasNGarBAarCHAau WITH TWO DOTSatIarDAarEasEarFA",
   "arGAarHAAarIarJAarKAasHAarLAasHAarMAatNCHU ALI GALI BHAbhCAbiYAbhDDHAbiHAbhGHAbhJHAbhLHAbh",
   "NGAbhSSAbhTAbiTAbhZAbiHAayFAayIayKAayRAayZHAarNAarOasEarPAarQAarRAarSAasHAasIBE ANGawCHAaw",
   "DAawEawFAawGAayAawHAayAawIaxYawJAawKAawPAawRAAawSHAawTAaxSAawUaxEawZAaxHAarTAasODO ALI GAL",
   "I TAbfZHAaxNGawBAawCHAawDAaxZAawEawGAayAawHAAawIawJAaxIAawKAawLONG VOWEL SIGNawMAawNIAawOa",
   "xEawPAawQAawTAaxSAawUaxEawWAawYAasSAarUasEarWAarYAarZAasHIasRAakMANCHU COMMAarFULL STOPakN",
   "IRUGUakROTATED BIRGAax WITH DOUBLE ORNAMENTbdORNAMENTakSIBE SYLLABLE BOUNDARY MARKERalWIRL",
   " BIRGAav WITH DOUBLE ORNAMENTbbORNAMENTakTODO SOFT HYPHENalRIPLE BIRGA WITH ORNAMENTalURNE",
   "D SWIRL BIRGA WITH DOUBLE ORNAMENTakVOWEL SEPARATORadKEYag FACEadOGRAM FOR EARTHanYANGaoIN",
   "aeRAILaeSTABLE SYMBOLacOD BUBBLEadN CAKEafVIEWING CEREMONYacSQUEafITOacTHER CHRISTMASadOR ",
   "BOATagSCOOTERafIZED WHEELCHAIRafWAYacUNT FUJIafAINai BICYCLISTajCABLEWAYajRAILWAYadSEaf FA",
   "CEagTRAPadTHacVIE CAMERAacYAIabRO DANDAafIGIT EIGHTakFIVEalOURakNINEakONEakSEVENalIXakTHRE",
   "EalWOakZEROafOUBLE DANDAaeLETTER AalBAalCHUalDAanIalEamAalHAIanOalKEAAEamHAIamOalLAanNalMA",
   "EMamIMalNGIamINalOamLamOalPAamHIalRIamOalSHIalTAamEKamHEAalWAalYOabUCH GREATER-THANafLESS-",
   "THANacLTANI LETTER AapBAaqHAapCAaqHAapDAaqDAarDAarHAaqHAapEapGAaqHAapHAapIapJAaqJAapKAaqHA",
   "apLAapMAapNAaqNAaqYAapPAaqHAapRAaqHAaqRAapSAapTAaqHAaqTAarHAapUapVAapYAaiSECTION MARKaeIMA",
   "PafPLE MUSICAL NOTESahICATION SIGNat IN DOUBLE CIRCLEaxLEFT HALF CIRCLEaxRIGHT HALF CIRCLE",
   "axTRIANGLEauWITH DOT ABOVEazUNDERBARapXafSETai MULTIPLICATIONajUNIONacSHROOMadIC FLAT SIGN",
   "agNATURAL SIGNagSHARP SIGNafAL KEYBOARDaq WITH JACKSaiNOTEaiSCOREajYMBOL ARPEGGIATO DOWNba",
   "UPapBEGIN BEAMavPHRASEavSLURavTIEaqRACEatKETarEATH MARKasVEatISav RESTapC CLEFaqAESURAaqIR",
   "CLE X NOTEHEADaqLIMACUSasVISarUSTER NOTEHEAD BLACKbgWHITEaqODAarMBINING ACCENTbf-STACCATOb",
   "aUGMENTATION DOTazBENDazDOITbbUBLE TONGUEbbWN BOWazFLAG-1be2be3be4be5bbIPazHARMONICazLOURE",
   "azMARCATObg-STACCATOazRIPazSMEARbaNAP PIZZICATObaPRECHGESANG STEMbaTACCATISSIMObgObbEMazTE",
   "NUTObaREMOLO-1bh2bh3bbIPLE TONGUEazUP BOWasMON TIMEaqRESCENDOarOIXaqUT TIMEapDA CAPOarL SE",
   "GNOarMPat ALLarSHED BARLINEaqECRESCENDOarGREE SLASHaqOUBLE BARLINEawFLATawSHARPaqRUM CLEF-",
   "1az2apEIGHTH NOTEawRESTaqND BEAMatOF STIMMEatPHRASEatSLURatTIEapF CLEFav OTTAVA ALTAbdBASS",
   "AaqERMATAaw BELOWaqINAL BARLINEasGERED TREMOLO-1bg2bg3arVE-LINE STAFFaqLAT DOWNauUPaqORTEa",
   "rUR-LINE STAFFauSTRING FRETBOARDaqUSA BLACKauWHITEapG CLEFav OTTAVA ALTAbdBASSAaqLISSANDO ",
   "DOWNazUPaqRACE NOTE NO SLASHbaSLASHarEGORIAN C CLEFazF CLEFapHALF NOTEauPEDAL MARKauRESTar",
   "UPTSTIMMEapINVERTED TURNapKIEVAN C CLEFawEIGHTH NOTE STEM DOWNbnUPaxND OF PIECEawFINAL NOT",
   "EaxLAT SIGNawHALF NOTEawQUARTER NOTE STEM DOWNboUPawRECITATIVE MARKawWHOLE NOTEaqORONapLEF",
   "T REPEAT SIGNaqONGAau IMPERFECTA RESTavPERFECTA RESTapMAXIMAaqEZZOaqINIMAav BLACKawRESTaqO",
   "ON NOTEHEAD BLACKbdWHITEaqULTI RESTauPLE MEASURE RESTapNATURAL DOWNaxUPaqEBENSTIMMEaqOTEHE",
   "AD BLACKaqULL NOTEHEADapONE HUNDRED TWENTY-EIGHTH NOTEbpRESTas-LINE STAFFaqRNAMENT STROKE-",
   "1bg0bg1bf2bf3bf4bf5bf6bf7bf8bf9aqTTAVA ALTAawBASSAapPARENTHESIS NOTEHEADaqEDAL MARKavUP MA",
   "RKarS SUBPUNCTISaqIANOaqLUS NOTEHEADaqODATUSarRRECTUSay FLEXUSapQUARTER NOTEaxRESTaxTONE F",
   "LATbcSHARParINDICESIMA ALTAbcBASSAapREPEAT DOTSavED FIGURE-1bf2bf3arVERSE FINAL BARLINEaqI",
   "GHT REPEAT SIGNarNFORZANDOapSCANDICUSay FLEXUSaqEGNOarMIBREVIS BLACKbaRESTbaWHITEatMINIMA ",
   "BLACKbaRESTbaWHITEaqHARP DOWNavUParORT BARLINEaqINGLE BARLINEarX-LINE STAFFatSTRING FRETBO",
   "ARDasTEENTH NOTEazRESTatY-FOURTH NOTEbcRESTaqORIaqQUARE BawNOTEHEAD BLACKbfWHITEaqUBITOapT",
   "EMPUS IMPERFECTUM CUM PROLATIONE IMPERFECTAch DIMINUTION-1ct2ct3bxPERFECTAawPERFECTUM CUM ",
   "PROLATIONE IMPERFECTAbvPERFECTAcd DIMINUTION-1aqHIRTY-SECOND NOTEbdRESTarREE-LINE STAFFaqO",
   "RCULUSax RESUPINUSaqRarIANGLE NOTEHEAD DOWN BLACKbmWHITEbhLEFT BLACKbmWHITEbhRIGHT BLACKbn",
   "WHITEbhUP BLACKbkRIGHT BLACKbqWHITEbkWHITEax-ROUND NOTEHEAD DOWN BLACKbsWHITEaqURNat SLASH",
   "auUPaqWO-LINE STAFFapVIRGAaqOID NOTEHEADapWHOLE NOTEavRESTaqITH FINGERNAILSapX NOTEHEADapZ",
   "abVSabWabYANMAR CONSONANT SIGN MEDIAL HAbeRAbeWAbeYAayON MEDIAL LAbiMAbiNAaxSHAN MEDIAL WA",
   "aiDIGIT EIGHTaoFIVEapOURaoNINEaoONEaoSEVENapIXaoTHREEapWOaoZEROaiLETTER AaqITON RAaqUapBAa",
   "qHAapCAaqHAapDAaqDAarHAaqHAapEaqASTERN PWO KAREN GHWAbhNNAbhYWAapGAaqHAaqREAT SAapHAapIaqI",
   "apJAaqHAapKAaqHAasMTI CAaxHAawDDAayHAaxHAawFAawGAawHAaxHAawJAaxHAawLLAawNAaxYAawRAawSAawTT",
   "AayHAawXAawZAapLAaqLAapMAaqON BBAavEatEatJHAatNGAapNAaqGAaqNAarYAaqYAapOapPAaqHAapRAaqUMAI",
   " PALAUNG FAapSAaqGAW KAREN SHAaqHAasN AauBAavHAauCAavHAauDAauFAauGAavHAauHAauJHAauKAavHAau",
   "NAavNAavYAauPHAauTHAauZAarWE PALAUNG CHAbcSHAaqSAapTAarI LAING BAbaHAazDAbaDAbbHAbaHAazFAa",
   "zGAbaHAazJAbaHAazLLAazNNAbaYAaqHAaqTAarHAapUaqUapVOCALIC LayLaxRayRapWAaqESTERN PWO KAREN ",
   "PWAbhTHAapYAajOGOGRAM KHAMTI HMayOAYayQNaiMODIFIER LETTER KHAMTI REDUPLICATIONaySHAN REDUP",
   "LICATIONaiSHAN DIGIT EIGHTatFIVEauOURatNINEatONEatSEVENauIXatTHREEauWOatZEROajIGN ANUSVARA",
   "aoSATanDOT BELOWanKHAMTI TONE-1az3anLITTLE SECTIONanPAO KAREN TONEanRUMAI PALAUNG TONE-5an",
   "SECTIONaoHAN COUNCIL EMPHATIC TONEbaTONE-2bf3asSAWasTONE-2ax3ax5ax6anTAI LAING TONE-2bc5an",
   "VIRAMAapSARGAanWESTERN PWO KAREN TONE-1bk2bk3bk4bk5ajYMBOL AFOREMENTIONEDaqITON EXCLAMATIO",
   "NavONEavTWOapCOMPLETEDapGENITIVEapLOCATIVEapSHAN EXCLAMATIONauONEaiTAI LAING DIGIT EIGHTay",
   "FIVEazOURayNINEayONEaySEVENazIXayTHREEazWOayZEROajONE MARK SGAW KAREN HATHIbdKE PHOaiVOWEL",
   " SIGN AAauIavTON AbaIatEau ABOVEatGEBA KAREN IatIauIatKAYAH EEazOEazUatMON IIaxOatSGAW KAR",
   "EN EUauHAN AAayEaz ABOVEayFINAL YatTALL AAatUauUatVOCALIC LbcLbbRbcRatWESTERN PWO KAREN EU",
   "blUEaaN-ARY CIRCLED DOT OPERATORaoPLUS OPERATORaoTIMES OPERATORahOPRODUCTagINTERSECTIONagL",
   "OGICAL ANDaoORagPRODUCTagSQUARE INTERSECTION OPERATORanUNION OPERATORahUMMATIONagTIMES OPE",
   "RATORagUNIONal OPERATOR WITH DOTbaPLUSagWHITE VERTICAL BARabABATAEAN CRUCIFORM NUMBER FOUR",
   "akLETTER ALEPHasYINarBETHarDALETHarFINAL ALEPHaxBETHaxHEaxKAPHaxLAMEDHaxMEMaxNUNaxSHINaxYO",
   "DHarGIMELarHEatTHarKAPHarLAMEDHarMEMarNUNarPEarQOPHarRESHarSADHEatMEKHasHINarTAWasETHarWAW",
   "arYODHarZAYINakNUMBER FIVEasOURarONEau HUNDREDarTENasHREEasWENTYatOadLAacIL POLISHadRA SIG",
   "NacKacME BADGEacNDaeINAGARI HEADSTROKEamLETTER AauAauIauUatBAauHAatCAauHAatDAauDAavHAauHAa",
   "tEatGAauHAatHAatIauIatJAauHAatKAauHAatLAauLAatMAatNAauGAauNAauYAatOatPAauHAatRAauRAatSAauH",
   "AauSAatTAauHAauTAavHAatUauUatVAauOCALIC RbcRatYAamSIGN ANUSVARAasVAGRAHAarSIDDHAMarVIRAMAa",
   "tSARGAamVOWEL SIGN AAayIayUaxEaxIayIaxOaxPRISHTHAMATRA EaxUayUaxVOCALIC RbgRacRROW NO-BREA",
   "K SPACEacTIONAL DIGIT SHAPESajPARKacUSEATED FACEacZAR AMULETabBHacSPabECKTIEacGATED DOUBLE",
   " VERTICAL BAR DOUBLE RIGHT TURNSTILEafIVE ACKNOWLEDGEajCIRCLED DIGIT ZEROarLATIN CAPITAL L",
   "ETTER AbmBbmCbmDbmEbmFbmGbmHbmIbmJbmKbmLbmMbmNbmObmPbmQbmRbmSbmTbmUbmVbmWbmXbmYbmZarNUMBER",
   " EIGHTEENazLEVENayFIFTEENazOURTEENayNINETEENaySEVENTEENazIXTEENayTHIRTEENazWELVEbbNTYarSQU",
   "AREarTRIANGLEajDIAGONAL CROSSasDIAMONDasMIDDLE RIGHT TO LOWER CENTREajSQUARED ABarCROSS MA",
   "RKarICarLATIN CAPITAL LETTER AbmBbmCbmDbmEbmFbmGbmHbmIbmJbmKbmLbmMbmNbmObmPbmQbmRbmSbmTbmU",
   "bmVbmWbmXbmYbmZarPAarQUESTION MARKarSAarWCacITHER A SUBSET OF NOR EQUAL TOamPERSET OF NOR ",
   "EQUAL TOajPPROXIMATELY NOR ACTUALLY EQUAL TOaiGREATER-THAN NOR EQUAL TObcIVALENT TOazLESS-",
   "THANaiLESS-THAN NOR EQUAL TOazIVALENT TOawGREATER-THANacLacPTUNEah FORM TWOacRD FACEacSSUS",
   "adT WITH EGGSaeING DOLLSacUTERaeRAL CHESS BISHOPau ROTATED NINETY DEGREESbdTWO HUNDRED SEV",
   "ENTY DEGREESaoEQUIHOPPERay ROTATED NINETY DEGREESaoKINGas ROTATED NINETY DEGREESbbTWO HUND",
   "RED SEVENTY DEGREESapNIGHTau ROTATED FORTY-FIVE DEGREESbdNINETY DEGREESbdONE HUNDRED THIRT",
   "Y-FIVE DEGREESbdTHREE HUNDRED FIFTEEN DEGREESbeWO HUNDRED SEVENTY DEGREESbpTWENTY-FIVE DEG",
   "REESaoPAWNas ROTATED NINETY DEGREESbbTWO HUNDRED SEVENTY DEGREESaoQUEENat ROTATED NINETY D",
   "EGREESbcTWO HUNDRED SEVENTY DEGREESaoROOKas ROTATED NINETY DEGREESbbTWO HUNDRED SEVENTY DE",
   "GREESaoTURNED BISHOPavKINGawNIGHTavPAWNavQUEENavROOKaiFACEacW LINEaeMOON SYMBOLajWITH FACE",
   "aeSHEQEL SIGNaeTAI LUE DIGIT EIGHTasFIVEatOURasNINEasONEasSEVENatIXasTHREEatWOasZEROamLETT",
   "ER FINAL BazDazKazMazNbaGazVatHIGH BAayDAayFAayHAayKAazVAayLAayMAayNAazGAayPAazHAayQAaySAa",
   "zUAayTAazHAazSAayVAayXAazVAayYAatLOW BAaxDAaxFAaxHAaxKAayVAaxLAaxMAaxNAayGAaxPAayHAaxQAaxS",
   "AayUAaxTAayHAaySAaxVAaxXAayVAaxYAamSIGN LAEauVamTHAM DIGIT ONEanONE MARK-1aw2amVOWEL SIGN ",
   "AAazYayEayYaxEaxIIayYaxOayAazYayYaxUayEazYayUayYaxVOWEL SHORTENERadA ABBREVIATION SIGNafCO",
   "MMAafDANDAagIGIT EIGHTalFIVEamOURalNINEalONEalSEVENamIXalTHREEamWOalZEROagOUBLE COMMAamDAN",
   "DAafGAP FILLERafINSERTION SIGNafLETTER AanAanIanUamBAanHAamCAanHAamDAanDAaoHAanHAamEamGAan",
   "HAamHAamIanIamJAanHAamKAanHAamLAanHAamMAanHAamNAanGAaoHAanHAanNAanYAaoHAamOamPAanHAamRAanH",
   "AamSAanHAanSAamTAanHAanTAaoHAamUanUamVEDIC ANUSVARAanOCALIC LavLauRavRamWAamYAafOMafPLACEH",
   "OLDER MARKafSANDHI MARKagIDDHIahGN ANUSVARAalVAGRAHAakCANDRABINDUakFINAL ANUSVARAakJIHVAMU",
   "LIYAakNUKTAakUPADHMANIYAakVIRAMAamSARGAafVOWEL SIGN AAarIarUaqEaqIarIaqOaqUarUaqVOCALIC La",
   "zLayRazRadLINE LEFTaiRIGHTadSPAPERacXT LINEafPAGEabIGHT WITH STARSacNJAabKO COMBINING DOUB",
   "LE DOT ABOVEaoLONG DESCENDING TONEatHIGH TONEatLOW TONEatRISING TONEaoNASALIZATION MARKaoS",
   "HORT HIGH TONEauLOW TONEauRISING TONEahMAaeDANTAYALANafIGIT EIGHTakFIVEalOURakNINEakONEakS",
   "EVENalIXakTHREEalWOakZEROafOROME SIGNaeEXCLAMATION MARKaeHIGH TONE APOSTROPHEaeLAJANYALANa",
   "fETTER AalBAalCHAalDAanGBASINNAalEamEalFAalGBAalHAalIalJAamONA CHAaqJAaqRAalKAalLAalMAalNa",
   "mAan WOLOSOamYAao WOLOSOalOamOalPAalRAamRAalSAalTAalUalWAalYAafOW TONE APOSTROPHEaeSYMBOL ",
   "GBAKURUNENalOO DENNENaeTAMAN SIGNabLabNBSPabO BICYCLESaeREAK HEREadENTRYai SIGNadMOBILE PH",
   "ONESadONE UNDER EIGHTEEN SYMBOLadPEDESTRIANSaeIRACYadSMOKING SYMBOLac-BREAK SPACEacMINAL D",
   "IGIT SHAPESaeSMA SIGNacN-BREAKING HYPHENaePOTABLE WATER SYMBOLadFORKINGacRadDIC MARK SIGNa",
   "dMAL SUBGROUP OFas OR EQUAL TOadTH EAST AND SOUTH WEST ARROWamRROWaq AND SOUTH EAST ARROWa",
   "rCROSSING NORTH WEST ARROWbaSOUTH EAST ARROWarWITH HOOKalBLACK ARROWalDOUBLE ARROWalPOINTI",
   "NG BUDauLEAFauVINE LEAFalSANS-SERIF ARROWalTRIANGLE-HEADED ARROWbg TO BARalWHITE ARROWagIN",
   "DIC FRACTION ONE EIGHTHazHALFazQUARTERazSIXTEENTHavTHREE QUARTERSbbSIXTEENTHSamPLACEHOLDER",
   " MARKamQUANTITY MARKapRTER MARKamRUPEE MARKagWEST AND SOUTH EAST ARROWamRROWaq AND NORTH E",
   "AST ARROWarCROSSING NORTH EAST ARROWarTO CORNERauLONG BARarWITH HOOKalBLACK ARROWalDOUBLE ",
   "ARROWalPOINTING BUDauLEAFauVINE LEAFalSANS-SERIF ARROWalTRIANGLE-HEADED ARROWbg TO BARalWH",
   "ITE ARROWafEAST-POINTING AIRPLANEacSEacT A SUBSET OFaiPERSET OFafLMOST EQUAL TOafN ELEMENT",
   " OFafSYMPTOTICALLY EQUAL TOaeCHECK MARKaeEQUAL TOahIVALENT TOaeGREATER-THANaeIDENTICAL TOa",
   "eLESS-THANaeNORMAL SUBGROUP OFaw OR EQUAL TOaePARALLEL TOaeSIGNafQUARE IMAGE OF OR EQUAL T",
   "OalORIGINAL OF OR EQUAL TOaeTILDEafRUEadCHED LEFT SEMICIRCLE WITH THREE DOTSajOWER RIGHT-S",
   "HADOWED WHITE RIGHTWARDS ARROWaiRIGHT SEMICIRCLE WITH THREE DOTSaiUPPER RIGHT-SHADOWED WHI",
   "TE RIGHTWARDS ARROWadEae PADahGEaeBOOKai WITH DECORATIVE COVERabULadLacMBER EIGHTEEN FULL ",
   "STOPaiLEVEN FULL STOPahFIFTEEN FULL STOPaiOURTEEN FULL STOPahNINETEEN FULL STOPahSEVENTEEN",
   " FULL STOPaiIGNajXTEEN FULL STOPahTEN FULL STOPaiHIRTEEN FULL STOPaiWELVE FULL STOPakNTY F",
   "ULL STOPadERO SIGNacSHU ITERATION MARKacT AND BOLTabYIAKENG PUACHUE HMONG CIRCLED CAaxDIGI",
   "T EIGHTbdFIVEbeOURbdNINEbdONEbdSEVENbeIXbdTHREEbeWObdZEROaxLETTER AbfAbeCAbeDAbfLAbeEbfEbe",
   "FAbeGAbeHAbgHbeIbeKAbeLAbeMAbfLAbeNAbfCAbfKAbfPAbgLAbfQAbfRAbfTAbgSAbgXAbfYAbeObfObePAbfLA",
   "beQAbeRAbfRAbeSAbeTAbfSAbfXAbeUbeVAbeWbeXAbfYAbeYAbeZAayOGOGRAM NYAJaxSIGN FOR ANIMALbgINV",
   "ERTEBRATEbgLOCATIONbgPERSONbgTHINGbcXW XWayYLLABLE LENGTHENERaxTONE-BbcDbcGbcJbcMbcSbcVaaO",
   "BJECT REPLACEMENT CHARACTERacLIQUE ANGLE OPENING DOWNawUPaiHYPHENacSERVER EYE SYMBOLabCR A",
   "MOUNT OF CHECKaeBELT BUCKLEafOW TIEafRANCH BANK IDENTIFICATIONaeCHAIRafUSTOMER ACCOUNT NUM",
   "BERaeDASHafOUBLE BACKSLASHaeFORKaeHOOKaeINVERTED FORKacTAGONAL SIGNadOPUSabDENabFFICE BUIL",
   "DINGabGHAM FEATHER MARKagLETTER AILManBEITHanCEIRTaoOLLanDAIRanEABHADHapDHADHapMHANCHOLLan",
   "FEARNanGORTanIFINaoODHADHanLUISanMUINanNGEADALaoIONanONNaoRanPEITHanRUISanSAILaoTRAIFanTIN",
   "NEanUATHaoILLEANNaoRagREVERSED FEATHER MARKagSPACE MARKacONEKabHM SIGNabIL DRUMabK HAND SI",
   "GNabL CHIKI AHADajDIGIT EIGHTapFIVEaqOURapNINEapONEapSEVENaqIXapTHREEaqWOapZEROajGAAHLAA T",
   "TUDDAAGajLETTER AAJasKasMasWarGarLarNGarTaqEDDarNarParRRaqIHarNYarRarSaqLAasAarEarIarOarUa",
   "qOBarHarTTarVaqUCarDarNNarYajMU TTUDDAGal-GAAHLAA TTUDDAAGajPHAARKAAakUNCTUATION DOUBLE MU",
   "CAADavMUCAADajRELAAacD CHINESE HOOK MARKamITERATION MARKaeHUNGARIAN CAPITAL LETTER AbeAbeK",
   "beMBbeNDbdCLOSE EbdEbeBbeCbfHbfSbeDbeEbeFbeGbfYbeHbeJbeKbeLbfYbeMbfPbeNbfCbfTbg-SHAPED SIG",
   "NbfYbePbeRbeSbfZbeTbfYbeVbeZbfSbdIbeIbdNIKOLSBURG OEboUEbdObeEEbeObdRUDIMENTA OEbnUEbdSHOR",
   "T ERbdUbeNKbeSbeUaoNUMBER FIFTYaxVEavONEay HUNDREDazTHOUSANDavTENaoSMALL LETTER AbcAbcKbcM",
   "BbcNDbbCLOSE EbbEbcBbcCbdHbdSbcDbcEbcFbcGbdYbcHbcJbcKbcLbdYbcMbdPbcNbdCbdTbe-SHAPED SIGNbd",
   "YbcPbcRbcSbdZbcTbdYbcVbcZbdSbbIbcIbbNIKOLSBURG OEbmUEbbObcEEbcObbRUDIMENTA OEblUEbbSHORT E",
   "RbbUbcNKbcSbcUaeITALIC LETTER AasBEasCHEasDEasEatFatKSatLatMatNatRauSatSauHauSasHEasIatIas",
   "KAatEatHEatUasNORTHERN TSEasOasPEatHEasSHEatOUTHERN TSEasTEatHEasUatUasVEasYEasZEalNUMERAL",
   " FIFTYavVEatONEatTENaeKEYaeNORTH ARABIAN LETTER AINbaLEFazBEHazDADbbLazES-1bc2bc3azFEHazGE",
   "EMbaHAINazHAHbaEHazKAFbaHAHazLAMazMEEMazNOONazQAFazREHazSADazTAHbaEHbaHALbbEHazWAWazYEHazZ",
   "AHbbINasNUMBER ONEazTENbaWENTYaePERMIC LETTER ANasBURasCHERYasDOIatZHOIauITAasEatFasGAIasH",
   "AasIatAatEasKOKEasLEIasMENOEasNENOEasOatOasPEEIasREIasSHCHOOIauOOIatIIasTAIatSIUasUasVERat",
   "OOIasYAauTatERavIavUatRYatUasZATAatHOIahSIAN NUMBER HUNDREDatONEatTENauWENTYavOamSIGN AasU",
   "RAMAZDAAbb-2bbHAarBAatGAasUUMISHarCAarDAatHYAAUSHba-2asIasUarFAarGAasUarHAarIarJAasIarKAas",
   "UarLAarMAasIasUarNAasUarPAarRAasUarSAasHAasSAarTAasHAasUarUarVAasIarXAasSHAAYATHIYAarYAarZ",
   "AamWORD DIVIDERaiONAL COMPUTERaeSOGDIAN FRACTION ONE HALFamLETTER ALEPHavTERNATE AYINauYIN",
   "atBETHatFINAL ALEPHazBETHazHEazNUNbc WITH VERTICAL TAILazSADHEbe WITH VERTICAL TAILazTAWbc",
   " WITH VERTICAL TAILatGIMELatHEavTHatKAPHatLAMEDHatMEMatNUNatPEatRESH-AYIN-DALETHatSADHEavM",
   "EKHauHINatTAWatWAWatYODHatZAYINanIGATURE AYIN-DALETHamNUMBER FIVEauOURatONEaw HUNDREDatTEN",
   "auHIRTYavREEauWENTYavOagUTH ARABIAN LETTER ALEFbaYNazBETHazDALETHbaHADHEbcLETHazFEazGHAYNb",
   "aIMELazHEbbTHazKAPHbaHETHazLAMEDHazMEMazNUNazQOPHazRESHazSADHEbbMEKHbbTbaHINazTAWbaETHbaHA",
   "WbbETHazWAWazYODHazZAYNasNUMBER FIFTYazONEavERIC INDICATORaeTURKIC LETTER ORKHON AbaBbaDba",
   "EBbbDbbGbbKbbLbbNbbRbbSbbTbbYbaGbaLbaNbaQbaRbaSbbHbaTbaYazBASHazECbaLTbaMbaNCbbGbbTbbYbaPb",
   "aSHbaZazIbaCbaQazObaEbbKbaPbaQbaTasYENISEI AbbBbbDbbEbcBbcGbcKbcNbdGbcTbcYbbGbbLbbNGbbQbbR",
   "bbSHbbTbbYbaEbbCbbNCbcTbcYbbSHbbZbaIbbQbaOEbcKbbQaeUYGHUR COMBINING DOT ABOVEazBELOWavTWO ",
   "DOTS ABOVEbeBELOWalLETTER ALEPHasBETHasFINAL HETHasGIMEL-HETHasKAPHasLAMEDHatESHasMEMasNUN",
   "asPEasRESHasSADHEauMEKHatHINasTAWasWAWasYODHasZAYINalPUNCTUATION BARaxFOUR DOTSaxTWO BARSb",
   "bDOTSadER ADULTagMANagWOMANacIVEabM SYMBOLabN WITH EXCLAMATION MARK WITH LEFT RIGHT ARROW ",
   "ABOVEacCOMING AUTOMOBILEajBUSajFIRE ENGINEajPOLICE CARajTAXIacE BUTTON MOUSEaeDOT LEADERai",
   "OVER TWO DOTS PUNCTUATIONad-PIECE SWIMSUITacIONabPEN BOOKahXafCENTRE ASTERISKamBLACK STARa",
   "mCROSSamTEARDROP-SPOKED ASTERISKafFILE FOLDERagOLDERafHANDS SIGNafLOCKafMAILBOX WITH LOWER",
   "ED FLAGasRAISED FLAGafSUBSETahPERSETae-CIRCUIT-OUTPUT H-TYPE SYMBOLauL-TYPE SYMBOLafOUTLIN",
   "ED RIGHTWARDS ARROWadRATING SYSTEM COMMANDacHIUCHUSacPOSITIONacTICAL DISCam ICONaeON KEYab",
   "R WITH DOT INSIDEacANGE BOOKahHEARTafUTANacIGINAL OFadYA AI LENGTH MARKahU LENGTH MARKagDI",
   "GIT EIGHTamFIVEanOURamNINEamONEamSEVENanIXamTHREEanWOamZEROagFRACTION ONE EIGHTHatHALFatQU",
   "ARTERatSIXTEENTHapTHREE QUARTERSavSIXTEENTHSagISSHARagLETTER AaoAaoIaoUanBAaoHAanCAaoHAanD",
   "AaoDAapHAaoHAanEanGAaoHAanHAanIaoIanJAaoHAanKAaoHAanLAaoLAanMAanNAaoGAaoNAaoYAanOanPAaoHAa",
   "nRAaoHAaoRAanSAaoHAaoSAanTAaoHAaoTAapHAanUaoUanVAaoOCALIC LawLavRawRanWAanYAaoYAagSIGN ANU",
   "SVARAamVAGRAHAalCANDRABINDUalNUKTAalOVERLINEalVIRAMAanSARGAagVOWEL SIGN AAasIasUarEarIasIa",
   "rOarUasUarVOCALIC LbaLazRbaRacNATE LEFT PARENTHESISahRIGHT PARENTHESISacTHODOX CROSSabSAGE",
   " CAPITAL LETTER AawHawIaxNavBRAavCHAavDHAavEawHCHAaxKAaxPAaxTAaySAawINavGHAavHAawYAavIavKA",
   "awHAawYAavLAavMAavNAavOawINavPAavSAawHAavTAawSAaxHAavUavWAavZAawHAagSMALL LETTER AauHauIav",
   "NatBRAatCHAatDHAatEauHCHAavKAavPAavTAawSAauINatGHAatHAauYAatIatKAauHAauYAatLAatMAatNAatOau",
   "INatPAatSAauHAatTAauSAavHAatUatWAatZAauHAacCacMANYA DIGIT EIGHTaoFIVEapOURaoNINEaoONEaoSEV",
   "ENapIXaoTHREEapWOaoZEROaiLETTER AaqAaqLEFapBAapCAYNapDEELaqHAapEaqEapFAapGAapHAapIapJAapKA",
   "AFaqHAapLAANapMIINapNUUNapOaqOapQAAFapRAapSAaqHIINapTAapUapWAWapXAapYAabTTERadOMAN SIYAQ A",
   "LTERNATE NUMBER EIGHTbfFIVEbgOURbj HUNDREDbfNINEbfSEVENbgIXbi HUNDREDbfTENbi THOUSANDbgHRE",
   "EbgWObi THOUSANDaoFRACTION ONE HALFbbSIXTHaoMARRATANaoNUMBER EIGHTba HUNDREDbbTHOUSANDbaYb",
   "b THOUSANDavFIFTYba THOUSANDaxVEaz HUNDREDbaTHOUSANDawORTYba THOUSANDaxURaz HUNDREDbaTHOUS",
   "ANDavNINEaz HUNDREDbaTHOUSANDazTYbb THOUSANDavONEay HUNDREDazTHOUSANDavSEVENba HUNDREDbbTH",
   "OUSANDbaTYbc THOUSANDawIXay HUNDREDazTHOUSANDayTYba THOUSANDavTENay THOUSANDawHIRTYbb THOU",
   "SANDaxREEba HUNDREDbbTHOUSANDawWENTYbb THOUSANDaxOay HUNDREDazTHOUSANDabUNCE SIGNacTBOX TR",
   "AYadLINED BLACK STARajGREEK CROSSajLATIN CROSSajWHITE STARabVERHEATED FACEaeLAPahPING BLAC",
   "K SQUARESamWHITE AND BLACK SQUARESasSQUARESafINEabWLabXabYSTERaaPACKAGEacDadDING CHARACTER",
   "acGEae FACING UPafWITH CIRCLED TEXTalURLaeRaeSadODAacHAWH HMONG CLAN SIGN FAJaxHAMazWJaxKH",
   "ABayOOayWMaxLAUJayISaxMUASaxPHABaxTHOJaySABazHEEJazWBaxVAJayWJaxXYOOJaxYAJayEEGaoONSONANT ",
   "AUaxCAUayHAUaxHAUayLAUayNAUaxLAUaxMAUaxNAUayCHAUayKAUayLAUayTHAUazSAUaxPLHAUaxQHAUaxRAUaxV",
   "AUaxXAUaxYAUanDIGIT EIGHTatFIVEauOURatNINEatONEatSEVENauIXatTHREEauWOatZEROanMARK CIM HOMa",
   "wKESaxHAVawSOaxUAMawTAUMaxUBanNUMBER HUNDRED MILLIONSbbSauMILLIONSauTEN BILLIONSayTHOUSAND",
   "SaxSavRILLIONSanSIGN AVasCIM CHEEMaxUAM TSHOOJawHAIS LUS NTOG NTOGawNRES TOSawPUB DAWBawTS",
   "OV ROGaxXWVba CHWVasHLIatNUBasIB YAMasLOSasMEEJ SUABaxTSEEBatUSasNQIGatTUJasTAUatHIRD-STAG",
   "E HLIatXHEEJ CEEVasVOS FEEMawLUBawNRUAawSEEVawTHIABayOMaxSHAB CEEBasXAUSatIABatYEEM FAIBay",
   "NTXIVayRHOayTOVauOOasZWJ THAJanVOWEL KAABawVavBavIBawVavUBawVavVavWBawVauEBavEBawVavVauIAB",
   "awVavBavVauOBavOBawVavVauUABawVavBavVauWBavVacLLASadM BRANCHafDOWN HANDafTREEafUP HANDaeS ",
   "UP TOGETHERaeYRENE LEFT-POINTING FLEURONamTTER ALEPHasYINarBETHarDALETHarFINAL NUNarGIMELa",
   "rHEatTHarKAPHarLAMEDHarMEMarNUNarPEarQOPHarRESHarSADHEatMEKHasHINarTAWasETHarWAWarYODHarZA",
   "YINakNUMBER FIVEasOURarONEarTENasHREEasWENTYatOakRIGHT-POINTING FLEURONacNCAKESadDA FACEac",
   "PERCLIPacRACHUTEaeGRAPH SEPARATORajOSajUS MARKaeLLEL TOajWITH HORIZONTAL STROKEaoTILDE OPE",
   "RATORadENTHESIZED DIGIT EIGHTauFIVEavOURauNINEauONEauSEVENavIXauTHREEavWOaoHANGUL CHIEUCHb",
   "c AawIEUCba AbbUavHIEUHba AavIEUNGba AavKHIEUKHbc AawIYEOKbb AavMIEUMba AavNIEUNba AavPHIE",
   "UPHbc AawIEUPba AavRIEULba AavSIOSaz AavTHIEUTHbc AawIKEUTbb AaoIDEOGRAPH ALLIANCEayCALLaz",
   "ONGRATULATIONayEARTHazIGHTazNTERPRISEayFESTIVALazINANCIALbaREbaVEazOURayHAVEayLABORayMETAL",
   "azOONayNAMEazINEayONEayREACHbaPRESENTbaSOURCEbbTaySELFbaVENazIXazOCIETYazPECIALazTOCKbaUDY",
   "azUNbaPERVISEayTENazHREEazWOayWATERazOODaoKOREAN CHARACTER O HUbgJEONaoLATIN CAPITAL LETTE",
   "R AbjBbjCbjDbjEbjFbjGbjHbjIbjJbjKbjLbjMbjNbjObjPbjQbjRbjSbjTbjUbjVbjWbjXbjYbjZauSMALL LETT",
   "ER AbhBbhCbhDbhEbhFbhGbhHbhIbhJbhKbhLbhMbhNbhObhPbhQbhRbhSbhTbhUbhVbhWbhXbhYbhZaoNUMBER EI",
   "GHTEENawLEVENavFIFTEENawOURTEENavNINETEENavSEVENTEENawIXTEENavTENawHIRTEENawWELVEayNTYadRO",
   "TadT ALTERNATION MARKaeIAL DIFFERENTIALaiLINE BACKWARDanDOWNanFORWARDanUPahLY-RECYCLED PAP",
   "ER SYMBOLaeNERSHIP SIGNaeY POPPERacSSED SYMBOLafNGER SHIPaeIVE-PULL-DOWN-OUTPUT SYMBOLanUP",
   "-OUTPUT SYMBOLaePORT CONTROLacU CIN HAU GLOTTAL STOPay FINALazVARIANTamLETTER AatBAatCAauH",
   "AatDAatEatFAauINAL KazLazMazNbaGazPazTazWazYatGAatHAatIauAatKAauHAatLAatMAatNAauGAatOatPAa",
   "uHAatRAatSAatTAauHAatUauAatVAatZAanOW-FALLING TONEbc FINALbdLONGbh FINALamMID-LEVEL TONEba",
   " FINALbbLONG FINALamRISING TONEax FINALayLONGbc FINALamSANDHI GLOTTAL STOPbf FINALatTONEax",
   " FINALayLONGbc FINALacW PRINTSabDFacIabEACE SYMBOLaeHaeOCKadNUTSadRacDESTRIANacN OVER STAM",
   "PED ENVELOPEadCILadGUINadSIVE FACEadTAGRAMacOPLE HUGGINGacR MILLE SIGNaeSIGNaeTEN THOUSAND",
   " SIGNadCENT SIGNadFORMING ARTSadMANENT PAPER SIGNadPENDICULARan WITH SadSEVERING FACEaeON ",
   "BOWING DEEPLYahCLIMBINGahDOING CARTWHEELahFROWNINGahIN LOTUS POSITIONakSTEAMY ROOMahRAISIN",
   "G BOTH HANDS IN CELEBRATIONahWITH BALLanLOND HAIRamCROWNamFOLDED HANDSamHEADSCARFamPOUTING",
   " FACEagAL COMPUTERaePECTIVEacSETA SIGNadO SIGNacTRI DISHabHAGS-PA DOUBLE HEAD MARKajLETTER",
   " AarLTERNATE YAarSPIRATED FAaqBAaqCAasNDRABINDUarHAaqDAarDAarZAaqEarEaqFAaqGAarGAaqHAaqIaq",
   "JAaqKAarHAaqLAaqMAaqNAarGAarNAarYAaqOaqPAarHAaqQAaqRAaqSAarHAarMALL AaqTAarHAarSAasHAarTAa",
   "sHAaqUaqVOICED HAavLESS SHAaqWAaqXAaqYAaqZAarHAajMARK DOUBLE SHADaoSHADajSINGLE HEAD MARKa",
   "kUBJOINED LETTER RAbaWAbaYAalPERFIXED LETTER RAadISTOS DISC SIGN ARROWatBEEawHIVEauOOMERAN",
   "GavWauULLS LEGatCAPTIVEavRPENTRY PLANEavTauHILDauLUBauOLUMNavMBaxINING OBLIQUE STROKEatDOL",
   "IUMavVEatEAGLEatFLUTEatGAUNTLETauRATERatHELMETauIDEauORNatLIDavLYatMANACLESavTTOCKatOX BAC",
   "KatPAPYRUSauEDESTRIANauLANE TREEavUMED HEADatRAMauOSETTEatSAWauHIELDawPauLINGauMALL AXEauT",
   "RAINERatTATTOOED HEADauIARAauUNNYatVINEatWAVY BANDauOMANacILIPPINE DOUBLE PUNCTUATIONalSIN",
   "GLE PUNCTUATIONacOENICIAN LETTER AINatLFasBETasDELTasGAMLasHEauTasKAFasLAMDasMEMasNUNasPEa",
   "sQOFasROSHasSADEatEMKatHINasTAUatETasWAUasYODasZAIalNUMBER ONEav HUNDREDasTENatHREEatWENTY",
   "auOalWORD SEPARATORadLUSabICKaeUP TRUCKacEacGad FACEaeNOSEacLCROW SIGNadE OF POOadLacNATAa",
   "dCHED FINGERSafING HANDadE DECORATIONaeAPPLEadWHEEL STARacSCESadTOLacTCHFORKaj WITH TEE TO",
   "PabLACARDaeE OF INTEREST SIGNajWORSHIPadNCK CONSTANTap OVER TWO PIadYGROUND SLIDEaeING CAR",
   "D ACE OF CLUBSauDIAMONDSauHEARTSauSPADESanBACKaoLACK JOKERanEIGHT OF CLUBSawDIAMONDSawHEAR",
   "TSawSPADESanFIVE OF CLUBSavDIAMONDSavHEARTSavSPADESaoOOLapUR OF CLUBSavDIAMONDSavHEARTSavS",
   "PADESanJACK OF CLUBSavDIAMONDSavHEARTSavSPADESanKING OF CLUBSavDIAMONDSavHEARTSavSPADESaoN",
   "IGHT OF CLUBSaxDIAMONDSaxHEARTSaxSPADESanNINE OF CLUBSavDIAMONDSavHEARTSavSPADESanQUEEN OF",
   " CLUBSawDIAMONDSawHEARTSawSPADESanRED JOKERanSEVEN OF CLUBSawDIAMONDSawHEARTSawSPADESaoIX ",
   "OF CLUBSauDIAMONDSauHEARTSauSPADESanTEN OF CLUBSauDIAMONDSauHEARTSauSPADESaoHREE OF CLUBSa",
   "wDIAMONDSawHEARTSawSPADESaoRUMP-1au0au1au2au3au4au5au6au7au8au9at2au0au1at3at4at5at6at7at8",
   "at9aoWO OF CLUBSauDIAMONDSauHEARTSauSPADESanWHITE JOKERacDacUadNGERadS SIGNaj ABOVE EQUALS",
   " SIGNakIN LEFT HALF CIRCLEanRIGHT HALF CIRCLEanTRIANGLEakWITH BLACK TRIANGLEapCIRCUMFLEX A",
   "CCENT ABOVEapDOT BELOWapSMALL CIRCLE ABOVEaqUBSCRIPT TWOapTILDE ABOVEavBELOWae-MINUS SIGNa",
   "dTOaf FORM FIVEamOURalTHREEamWOabMabOCKET CALCULATORacLICE CARakS REVOLVING LIGHTahOFFICER",
   "acODLEacP DIRECTIONAL FORMATTINGaqISOLATEadCORNacRTABLE STEREOacSEIDONadITION INDICATORadT",
   "AL HORNahMARKal FACEaeBOXacT OF FOODadABLE WATER SYMBOLaeTOadTED PLANTacUCHadLTRY LEGadND ",
   "SIGNadRING LIQUIDadTING CAT FACEaiFACEacWER ON SYMBOLai-OFF SYMBOLagSLEEP SYMBOLahYMBOLabR",
   "AYER BEADSacECEDESai ABOVE ALMOST EQUAL TOapEQUALS SIGNapNOT ALMOST EQUAL TOatEQUAL TOapSI",
   "NGLE-LINE EQUALS SIGNbbNOT EQUAL TOajBUT NOT EQUIVALENT TOajOR EQUAL TOapIVALENT TOajUNDER",
   " RELATIONadGNANT MANajPERSONajWOMANadSCRIPTION TAKEaeENTATION FORM FOR VERTICAL COLONbhMMA",
   "bfEM DASHbgN DASHbgXCLAMATION MARKbfHORIZONTAL ELLIPSISbfIDEOGRAPHIC COMMAbrFULL STOPbfLEF",
   "T ANGLE BRACKETbkBLACK LENTICULAR BRACKETbkCORNER BRACKETblURLY BRACKETbkDOUBLE ANGLE BRAC",
   "KETbkPARENTHESISbkSQUARE BRACKETbkTORTOISE SHELL BRACKETbkWHITE CORNER BRACKETbqLENTICULAR",
   " BRACKETbgOW LINEbfQUESTION MARKbfRIGHT ANGLE BRACKETblBLACK LENTICULAR BRACKETblCORNER BR",
   "ACKETbmURLY BRACKETblDOUBLE ANGLE BRACKETblPARENTHESISblSQUARE BRACKETblTORTOISE SHELL BRA",
   "CKETblWHITE CORNER BRACKETbrLENTICULAR BRACKETcfKCETbfSEMICOLONbfTWO DOT LEADERbfWAVY LOW ",
   "LINEadTZELadVIOUS PAGEacIMEadNCEagSSaeT SCREEN SYMBOLafERah ICONadVACY MESSAGEafTE USE ONE",
   "amTWOal-1am2acOBING CANEadHIBITED SIGNadJECTIVEadPERTY LINEaeORTIONakAL TOadSERPINAabSALTE",
   "R PAHLAVI FOUR DOTS WITH CROSSbfDOTaqLETTER ALEPHaxBETHaxDALETHaxGIMELaxHEazTHaxKAPHaxLAME",
   "DHaxMEM-QOPHaxNUNaxPEaxSADHEazMEKHayHINaxTAWaxWAW-AYIN-RESHaxYODHaxZAYINaqNUMBER FOURaxONE",
   "ba HUNDREDaxTENayHREEayWENTYazOaqSECTION MARKaqTURNED SECTION MARKabU1ac2acBLIC ADDRESS LO",
   "UDSPEAKERacNCTUATION SPACEagS ELEVATUS MARKacRPLE HEARTadSEacSHPINacT LITTER IN ITS PLACE ",
   "SYMBOLaaQUADRANT LOWER LEFTapRIGHTajUPPER LEFTat AND LOWER LEFT AND LOWER RIGHTbeRIGHTayUP",
   "PER RIGHT AND LOWER LEFTbuRIGHTapRIGHTau AND LOWER LEFTbj AND LOWER RIGHTafUPLE INTEGRAL O",
   "PERATORakPRIMEadRTER NOTEadTERNION INTEGRAL OPERATORacESTION EXCLAMATION MARKajMARKaiED EQ",
   "UAL TOacINCUNXacOTATION MARKaaRABBITag FACEacCCOONadING CARahMOTORCYCLEacDICAL SYMBOL BOTT",
   "OMaeOaf BUTTONafACTIVE SIGNacILWAY CARaiTRACKadNaeBOWadSED BACK OF HANDahCOMMAahDOTakTED I",
   "NTERPOLATION MARKERahFISTahHANDal WITH FINGERS SPLAYEDarPART BETWEEN MIDDLE AND RING FINGE",
   "RSahINTERPOLATION MARKERahMC SIGNaiD SIGNaiR SIGNahSQUAREacMacTadIOacZORabECEIPTadORD SEPA",
   "RATORadREATIONAL VEHICLEadYCLED PAPER SYMBOLagING SYMBOL FOR GENERIC MATERIALSavTYPE-1 PLA",
   "STICSba2 PLASTICSba3 PLASTICSba4 PLASTICSba5 PLASTICSba6 PLASTICSba7 PLASTICSacD APPLEaeGI",
   "FT ENVELOPEacFERENCE MARKacGIONAL INDICATOR SYMBOL LETTER AbhBbhCbhDbhEbhFbhGbhHbhIbhJbhKb",
   "hLbhMbhNbhObhPbhQbhRbhSbhTbhUbhVbhWbhXbhYbhZaeSTERED SIGNacJANG CONSONANT SIGN HawNaxGawRa",
   "hLETTER AaoBAaoCAaoDAaoGAaoHAaoJAaoKAaoLAaoMAapBAaoNAapDAapGAaqGAapYAaqJAaoPAaoRAaoSAaoTAa",
   "oWAaoYAahSECTION MARKahVIRAMAaiOWEL SIGN AIatUasEatAatUasIasOasUacLIEVED FACEacMINDER RIBB",
   "ONacPLACEMENT CHARACTERacSPONSEadTRICTED LEFT ENTRY-1aw2afOOMacTURN LEFTahRIGHTahSYMBOLacV",
   "ERSE CHECKER BOARDaiINDEXaiLIGHT FOUR POINTED PINWHEEL STARakNE FEEDaiSOLIDUSap OPERATORaq",
   "PRECEDING SUBSETaqWITH HORIZONTAL STROKEaiTILDE OPERATOR ABOVE LEFTWARDS ARROWbdRIGHTWARDS",
   " ARROWahD ANGLEao WITH UNDERBARajCOMMAajDOUBLE PRIMEav QUOTATION MARKaqSTROKE NOT SIGNajEM",
   "PTY SETajFORKED PARAGRAPHOSajHAND WITH MIDDLE FINGER EXTENDEDajNOT SIGNajPILCROW SIGNakRIM",
   "EajQUESTION MARKajRAISED HAND WITH FINGERS SPLAYEDakIGHT ANGLEakOTATED FLORAL HEART BULLET",
   "ajSANS-SERIF CAPITAL LakEMICOLONajTHUMBS DOWN SIGNaqUP SIGNakILDEao EQUALSakRIPLE PRIMEajV",
   "ICTORY HANDadOLVING HEARTSabHINOCEROSabIacAL SIGNacBBONag ARROW DOWN LEFTasRIGHTanLEFT DOW",
   "NasUPanRIGHT DOWNatUPanUP LEFTaqRIGHTacCE BALLafCRACKERacFLEacGHT AND LOWER ONE EIGHTH BLO",
   "CKakUPPER ONE EIGHTH BLOCKaiGER BUBBLEajLEal BRACKETat WITH DOTamDOTTED SUBSTITUTION MARKE",
   "RamSUBSTITUTION MARKERamVARIANT WITH SQUAREamWITH ARCarDOWNWARDS ZIGZAG ARROWahRC GREATER-",
   "THAN BRACKETaiROW WITH CIRCLED PLUSarSMALL CIRCLEagBLACK LENTICULAR BRACKETamTORTOISE SHEL",
   "L BRACKETagCEILINGahORNER BRACKETahURLY BRACKETat LOWER HOOKauMIDDLE PIECEauUPPER HOOKagDO",
   "TTED SUBSTITUTION BRACKETaiUBLE ANGLE BRACKETaoRROW WITH ROUNDED HEADanPARENTHESISanQUOTAT",
   "ION MARKanWIGGLY FENCEagFISH TAILaiVE EIGHTHS BLOCKahLOORagHALF BLACK CIRCLEarSTARanOCKalF",
   "OLDERalMEDIUM SHADEalRUNNING MANaiND TELEPHONE RECEIVERagLOW PARAPHRASE BRACKETagNORMAL FA",
   "CTOR SEMIDIRECT PRODUCTagONE EIGHTH BLOCKakQUARTER BLOCKahPEN SQUARED DOTahUTER JOINagPARE",
   "NTHESISar EXTENSIONasLOWER HOOKasUPPER HOOKagRAISED OMISSION BRACKETagS-SHAPED BAG DELIMIT",
   "ERahEMIDIRECT PRODUCTaiVEN EIGHTHS BLOCKahIDEWAYS U BRACKETaiNGLE QUOTATION MARKahPEAKERan",
   " WITH ONE SOUND WAVEatTHREE SOUND WAVESajECH BUBBLEahQUARE BRACKETau EXTENSIONavLOWER CORN",
   "ERavUPPER CORNERavWITH DOUBLE STROKEbaQUILLbaSTROKEbaTICK IN BOTTOM CORNERbiTOP CORNERbaUN",
   "DERBARahUBSTITUTION BRACKETagTACKahHIRD WHITE RIGHT POINTING INDEXaiOUGHT BUBBLEaiREE EIGH",
   "THS BLOCKamQUARTERS BLOCKahORTOISE SHELL BRACKETahRANSPOSITION BRACKETaiIANGLEao ABOVE LEF",
   "T TRIANGLEamULAR ONE QUARTER BLOCKagVERTICAL BAR WITH QUILLaqOX LINEagWHITE CORNER BRACKET",
   "anURLY BRACKETamLENTICULAR BRACKETamPARENTHESISamSQUARE BRACKETamTORTOISE SHELL BRACKETahI",
   "GGLY FENCEaf-FACING ARMENIAN ETERNITY SIGNanFISTanSVASTI SIGNay WITH DOTSagHANDED INTERLAC",
   "ED PENTAGRAMagPOINTING ANGLE BRACKETapCURVED ANGLE BRACKETapDOUBLE ANGLE QUOTATION MARKapM",
   "AGNIFYING GLASSagSHADED WHITE RIGHTWARDS ARROWahIDE ARC CLOCKWISE ARROWagTO-LEFT EMBEDDING",
   "aoISOLATEaoMARKaoOVERRIDEafHAND INTERIOR PRODUCTafWARDS ARROWaq ABOVE ALMOST EQUAL TOaxREV",
   "ERSE ALMOST EQUAL TObfTILDE OPERATORaxSHORT LEFTWARDS ARROWaxTILDE OPERATORasND UPPER AND ",
   "LOWER ONE EIGHTH BLOCKarFROM BARaz TO BLACK DIAMONDarOVER LEFTWARDS ARROWarTHROUGH GREATER",
   "-THANazSUPERSETazXasO BARavLACK DIAMONDarWITH CORNER DOWNWARDSawDOTTED STEMayUBLE VERTICAL",
   " STROKEawEQUILATERAL ARROWHEADawHOOKawLARGE TRIANGLE ARROWHEADaxOOPawMEDIUM TRIANGLE ARROW",
   "HEADawNOTCHED TAILawPLUS BELOWawSMALL EQUILATERAL ARROWHEADbcTRIANGLE ARROWHEADaxTROKEawTA",
   "ILba WITH DOUBLE VERTICAL STROKEbgVERTICAL STROKEaxIP DOWNWARDSbaUPWARDSawVERTICAL STROKEa",
   "q-TAILalBACK-TILTED SHADOWED WHITE ARROWamLACK ARROWarCIRCLED WHITE ARROWamOTTOM SHADED WH",
   "ITE ARROWalCOMPRESSED ARROWalDASHED ARROWamOUBLE ARROWax FROM BARayWITH STROKEbdVERTICAL S",
   "TROKEax-TAILasDASH ARROWalFINGER-POST ARROWamRONT-TILTED SHADOWED WHITE ARROWalHANDanRPOON",
   " OVER LEFTWARDS HARPOONatWITH BARB DOWN ABOVE LEFTWARDS HARPOON WITH BARB DOWNbiBELOW LONG",
   " DASHbiFROM BARbiTO BARbhWARDSbdUP ABOVE LEFTWARDS HARPOON WITH BARB UPbnONG DASHbmRIGHTWA",
   "RDS HARPOON WITH BARB DOWNbgFROM BARbgTO BARbfWARDSamEAVY ARROWarCOMPRESSED ARROWalLEFT-SH",
   "ADED WHITE ARROWalOPEN-HEADED ARROWalPAIRED ARROWSalQUADRUPLE ARROWalRIGHT-SHADED WHITE AR",
   "ROWamOCKETalSANS-SERIF ARROWamQUARED ARROWaoIGGLE ARROWalTOP SHADED WHITE ARROWamRIANGLE A",
   "RROWHEADat-HEADED ARROWbg OVER LEFTWARDS TRIANGLE-HEADED ARROWbhTO BARbhWITH BOLD SHAFTbmD",
   "OUBLE HORIZONTAL STROKEbtVERTICAL STROKEbmHEAVY SHAFTbmLONG TIP DOWNWARDSbvUPWARDSbmMEDIUM",
   " SHAFTbmNARROW SHAFTbmVERY HEAVY SHAFTbbDASHED ARROWbbPAIRED ARROWSaoPLE ARROWasDASH ARROW",
   "amWO HEADED ARROWao-HEADED ARROW FROM BARbcWITH DOUBLE VERTICAL STROKEbhTAILbl WITH DOUBLE",
   " VERTICAL STROKEbrVERTICAL STROKEbiRIANGLE ARROWHEADSbhVERTICAL STROKEawTRIPLE DASH ARROWa",
   "lWAVE ARROWamHITE ARROWaw FROM WALLaxWITHIN TRIANGLE ARROWHEADacNGae ABOVEafBUOYafEQUAL TO",
   "afIN EQUAL TOafOPERATORafPOINTaeED PLANETaeING BELLacSING DIAGONAL CROSSING FALLING DIAGON",
   "ALazSOUTH EAST ARROWabLEacIacMacOabOASTED SWEET POTATOacBOT FACEacCKaeETacLL OF PAPERaeED-",
   "UP NEWSPAPERafR COASTERahSKATEaeING ON THE FLOOR LAUGHINGacMAN AS SIGNagCENTURIAL SIGNagDE",
   "NARIUS SIGNahIMIDIA SEXTULA SIGNahUPONDIUS SIGNagNUMERAL EIGHTapLEVENaoFIFTYat EARLY FORMa",
   "uTHOUSANDaqVEas HUNDREDatTHOUSANDapOURaoNINEaoONEar HUNDREDaz THOUSANDasTHOUSANDba C DaoRE",
   "VERSED ONE HUNDREDaoSEVENapIXar LATE FORMaoTENar THOUSANDapHREEapWELVEaqOagQUINARIUS SIGNa",
   "gSEMUNCIA SIGNaiSTERTIUS SIGNaiXTANS SIGNakULA SIGNahILIQUA SIGNagUNCIA SIGNacOSTERacSEaeT",
   "TEacTATED CAPITAL QaiFLORAL HEART BULLETaiHEAVY BLACK HEART BULLETaiLIGHT FOUR POINTED BLA",
   "CK CUSPaiWHITE FOUR POINTED CUSPacUND PUSHPINagTARGETafED SYMBOL FOR CAIatFUatLUatSHOUavUA",
   "NGXIatXIacWBOATabSabUBLE SIGNacGBY FOOTBALLacLE-DELAYEDacMI DIGIT EIGHTalFIVEamOURalNINEal",
   "ONEalSEVENamIXalTHREEamWOafFRACTION ONE HALFasQUARTERasTHIRDaoTWO THIRDSafNUMBER EIGHT HUN",
   "DREDarYamFIFTYaoVE HUNDREDanORTYaoUR HUNDREDamNINE HUNDREDaqTYamONE HUNDREDamSEVEN HUNDRED",
   "arTYanIX HUNDREDapTYamTENanHIRTYaoREE HUNDREDanWENTYaoO HUNDREDacNIC ARLAUG SYMBOLagBELGTH",
   "OR SYMBOLagCROSS PUNCTUATIONagLETTER AC AaoESCaoLGIZ EOLHXaoNSUZ AanBERKANAN BEORC BJARKAN",
   " BanCaoALCaoEALCapNaoWEORTHanDaoAGAZ DAEG DaoOTTED-LauNauPanEaoARaoHWAZ EH EaoNGaoTHanFEHU",
   " FEOH FE FaoRANKS CASKET ACbcESCbbEHbbISbbOSanGaoARaoEBO GYFU GapRanHAEGL HapGLAZ HanICELA",
   "NDIC-YRaoNGaqWAZaoORaoSAZ IS ISS IaoWAZ EOHanJERAN JanKaoAUN KarAanLAUKAZ LAGU LOGR LaoONG",
   "-BRANCH-AR AEazHAGALL HazMADR MazOSS OazYRanMANNAZ MAN ManNAUDIZ NYD NAUD NanOaoEaoNaoOaoP",
   "EN-PaoS OaoTHALAN ETHEL OanPERTHO PEORTH PanQanRAIDO RAD REID RanSHapORT-TWIG-AR AayBJARKA",
   "N BayHAGALL HayMADR MayNAUD NayOSS OaySOL SayTYR TayYRaoIGEL LONG-BRANCH-SOL SaoOWILO SaoT",
   "ANanTHURISAZ THURS THORNaoIWAZ TIR TYR TanURUZ UR UanVanWaoUNJO WYNN WanXanYaoRanZagMULTIP",
   "LE PUNCTUATIONagSINGLE PUNCTUATIONagTVIMADUR SYMBOLadNERaeING SHIRT WITH SASHacPEE SIGNacS",
   "SIAN ASTROLOGICAL SYMBOL BINOVILEbcNOVILEbcQUINTILEbcSENTAGONbcTREDECILEbcVIGINTILEaaS IN ",
   "TRIANGLEabAFETY PINahVESTacGITTARIUSacILBOATacKE BOTTLE AND CUPacLT SHAKERaeIREadUTING FAC",
   "EacMARITAN ABBREVIATION MARKakLETTER ALAFarBAAasITarDALATarFIarGAMANarINasTasYarKAAFarLABA",
   "TarMIMarNUNarQUFarRISHarSHANasINGAATarTAAFasITasSAADIYarYUTarZENakMARK DAGESHapEPENTHETIC ",
   "YUTapINar-ALAFapNEQUDAAapOCCLUSIONalODIFIER LETTER EPENTHETIC YUTbaIbaSHORT AakPUNCTUATION",
   " AFSAAQaxNGEDayNAAUaxRKAANUaxTMAAUawBAUawMELODIC QITSAawNEQUDAAawQITSAawSHIYYAALAAaxOF MAS",
   "HFAATawTURUawZAEFaxIQAAakVOWEL SIGN AawAavEavIavLONG AbbAbaEbaIbaUavOawVERLONG AbfAavSHORT",
   " AawUKUNavUacNDWICHadS-SERIF HEAVY DOUBLE COMMA QUOTATION MARK ORNAMENTayTURNED COMMA QUOT",
   "ATION MARK ORNAMENTarLOW DOUBLE COMMA QUOTATION MARK ORNAMENTalINTERROBANG ORNAMENTacRIacT",
   "ELLITEaj ANTENNAadURNacURASHTRA CONSONANT SIGN HAARUalDANDAamIGIT EIGHTarFIVEasOURarNINEar",
   "ONEarSEVENasIXarTHREEasWOarZEROamOUBLE DANDAalLETTER AatAatIatUasBAatHAasCAatHAasDAatDAauH",
   "AatHAasEatEasGAatHAasHAasIatIasJAatHAasKAatHAasLAatLAasMAasNAatGAatNAatYAasOatOasPAatHAasR",
   "AasSAatHAatSAasTAatHAatTAauHAasUatUasVAatOCALIC LbbLbaRbbRasYAalSIGN ANUSVARAaqCANDRABINDU",
   "aqVIRAMAasSARGAalVOWEL SIGN AAaxIaxUawEaxEawIaxIawOaxOawUaxUawVOCALIC LbfLbeRbfRaeOPODacXO",
   "PHONEabCALESadRFacHOOLag SATCHELacIacOOTERadRPIONagUSacREENaeWDRIVERadIPT CAPITAL BapEapFa",
   "pHapIapLapMapPapRahLIGATURE ET ORNAMENTahSMALL EanGanLanOadOLLadUPLEabEALadTacCOND PLACE M",
   "EDALadTION SIGNaeORacDNAacE-NO-EVIL MONKEYadDLINGacGMENTahED DIGIT EIGHTaqFIVEarOURaqNINEa",
   "qONEaqSEVENarIXaqTHREEarWOaqZEROacLFIEacMICOLONaeDIRECT PRODUCT WITH BOTTOM CLOSEDaeSEXTIL",
   "EacPARATED SYMBOLacRIOUS FACE WITH SYMBOLS COVERING MOUTHadVICE MARKacSAME DOTadQUIQUADRAT",
   "EacT MINUSaeTRANSMIT STATEacWING NEEDLEacXTILEabGCabHADOWED WHITE CIRCLEapLATIN CROSSapSTA",
   "RadLLOW PAN OF FOODadMROCKadRADA ABBREVIATION SIGNaiCONTINUATION SIGNaiDANDAajIGIT EIGHTao",
   "FIVEapOURaoNINEaoONEaoSEVENapIXaoTHREEapWOaoZEROajOUBLE DANDAaiEKAMajXTRA SHORT VOWEL MARK",
   "aiHEADSTROKEaiLETTER AaqAaqIaqUapBAaqHAapCAaqHAapDAaqDAarHAaqHAapEapGAaqHAapHAapIaqIapJAaq",
   "HAapKAaqHAapLAaqLAapMAapNAaqGAaqNAaqYAapOapPAaqHAapRAapSAaqHAaqSAapTAaqHAaqTAarHAapUaqUapV",
   "AaqOCALIC LayLaxRayRapYAaiOMaiSANDHI MARKajECTION MARK-1av2akPARATORajIGN ANUSVARAaoVAGRAH",
   "AanCANDRABINDUanINVERTED CANDRABINDUanJIHVAMULIYAanNUKTAanSIDDHAManUPADHMANIYAanVIRAMAapSA",
   "RGAajUTRA MARKaiVOWEL MODIFIER MARKaoSIGN AAauIauUatEatIauIatOatPRISHTHAMATRA EatUauUatVOC",
   "ALIC LbcLbbRbcRaeKadVED ICEaeIAN LETTER ADOaqGEaqHaqIRaqREarRAYaqSHaqWEapBIBapCHURCHapDEAD",
   "apEARarTaqGGaqRRapFEEapGAGapHA-HAaqUNGapIANaqCEaqFapJUDGEapKICKapLOLLapMEASUREaqIMEapNUNap",
   "OAKaqILaqNaqOZEaqRaqUTapPEEPapROARapSOaqUREapTHEYarIGHaqOTapUPapVOWapWOEarOLapYEAarWapZOOa",
   "cEEPacIELDadFT INagOUTadNTO SHRINEadPacOCKED FACE WITH EXPLODING HEADadOTING STARadPPING B",
   "AGSajTROLLEYadRT BACKSLANTED SOUTH ARROWahENT ARROW POINTING DOWNWARDS THEN NORTH EASTagDO",
   "WN TACKap WITH OVERBARagLEFT TACKagRIGHTWARDS ARROW ABOVE LEFTWARDS ARROWagSLANTED NORTH A",
   "RROWagUP TACKan ABOVE SHORT DOWN TACKaoWITH UNDERBARafCAKEafHAND FORMAT CONTINUING OVERLAP",
   "arDOWN STEParLETTER OVERLAParUP STEPafSadULDERED OPEN BOXadWERacRIMPadUGacUFFLE PRODUCTacY",
   "abIacDDHAM DANDAajOUBLE DANDAaiEND OF TEXT MARKaiLETTER AaqAaqIaqLTERNATE UaqUapBAaqHAapCA",
   "aqHAapDAaqDAarHAaqHAapEapGAaqHAapHAapIaqIapJAaqHAapKAaqHAapLAapMAapNAaqGAaqNAaqYAapOapPAaq",
   "HAapRAapSAaqHAaqSAapTAaqHAarREE-CIRCLE ALTERNATE IaqTAarHAaqWO-CIRCLE ALTERNATE IblIapUaqU",
   "apVAaqOCALIC LayLaxRayRapYAaiREPETITION MARK-1ay2ay3aiSECTION MARK DOUBLE RINGbg WITH RAYS",
   "avWITH CIRCLES AND FOUR ENCLOSURESbmRAYSbmTWO ENCLOSURESbaDOUBLE CRESCENTSbaQUADRUPLE CRES",
   "CENTSbaRAYS AND DOTTED CRESCENTSbqDOUBLE CRESCENTSbqTRIPLE CRESCENTSbaSEPTUPLE CRESCENTSba",
   "TRIDENT AND DOTTED CRESCENTSbmU-SHAPED ORNAMENTSbdPLE CRESCENTSakPARATOR BARasDOTajIGN ANU",
   "SVARAanCANDRABINDUanNUKTAanSIDDHAManVIRAMAapSARGAaiVOWEL SIGN AAauIauLTERNATE UbeUauUatEat",
   "IauIatOatUauUatVOCALIC RbcRadEWAYS BLACK DOWN POINTING INDEXapLEFT POINTING INDEXapRIGHT P",
   "OINTING INDEXapUP POINTING INDEXajWHITE DOWN POINTING INDEXapLEFT POINTING INDEXapRIGHT PO",
   "INTING INDEXapUP POINTING INDEXacGN OF THE HORNSaeWRITING AIR BLOW SMALL ROTATIONSauING OU",
   "TaqSUCK SMALL ROTATIONSauING INamBREATH EXHALEatINHALEaoUSH BETWEENasMULTIPLEasSINGLEamCHE",
   "EKS NEUTRALatPUFFEDatSUCKEDanOLONaoMMAamDREAMY EYEBROWS DOWN NEUTRALbcNEUTRAL DOWNbkUPbcUP",
   " NEUTRALanYNAMIC ARROWHEAD LARGEbeSMALLauEVERY OTHER TIMEauFASTauGRADUALauRELAXEDauSIMULTA",
   "NEOUSbg ALTERNATINGavLOWauTENSEamEARSanXCITEMENTanYE BLINK MULTIPLEawSINGLEaqWINKapBROWS S",
   "TRAIGHT DOWNbeNEUTRALbeUPapGAZE-FLOORPLANE CURVEDbfSTRAIGHTbn ALTERNATINGboDOUBLEauWALLPLA",
   "NE CIRCLINGbfURVEDbeSTRAIGHTbm ALTERNATINGbnDOUBLEapLASHES DOWNawFLUTTERINGawUPapS CLOSEDa",
   "rHALF CLOSEDawOPENarOPENarSQUEEZEDarWIDE OPENavNING MOVEMENTamFACE DIRECTION POSITION NOSE",
   " FORWARD TILTINGbpUP OR DOWNbz TILTINGanILL MODIFIER-2ba3ba4ba5ba6aoNGERanLICK LARGE MULTI",
   "PLEaySINGLEasSEQUENTIALatMALL MULTIPLEaySINGLEaoOORPLANE SHOULDER HIP MOVEanOREHEAD CONTAC",
   "TavNEUTRALavWRINKLEDanULL STOPamGRASP BETWEENasMULTIPLEasSINGLEamHAIRaoND-ANGLEaw INDEXbc ",
   "MIDDLE LITTLEbkRINGbdRING LITTLEbo OUTbdTHUMBbi INbjOUTaxLITTLE INDEXbj THUMB INDEX THUMBc",
   "b OUTbeUPaxMIDDLE RING LITTLEbp INbqOUTaxRING DOWN MIDDLE THUMB INDEX CROSSbcLITTLEarCIRCL",
   "Eax INDEXbd BENTbeHINGEbeMIDDLEbk CROSS LITTLEbqEDblLITTLEblRINGblTHUMBbeRING LITTLEayLITT",
   "LE INDEXbfUPayMIDDLE RING LITTLEbq BENTbfUPayRING LITTLEasLAWav FOUR FINGERS CONJOINEDawIN",
   "DEX THUMB CURVE THUMB INSIDEawMIDDLE RING LITTLE CONJOINEDby SIDEawNO THUMBawTHUMB FORWARD",
   "bcSIDEasUPau FIVE FINGERS SPREADbo OPENavINDEXba RING LITTLEbbTHUMBbg OPENavMIDDLE RING LI",
   "TTLEavNO THUMBavOPENaz NO THUMBbaTHUMB FORWARDbgSIDEavTHUMB FORWARDbbSIDEatRLICUEaz INDEX ",
   "RING LITTLE ONbaMIDDLE RING LITTLE ONbaOPENarFISTav FOUR FINGERS CONJOINED BENTawHEELawIND",
   "EXbb BENTbg OVER MIDDLEbcCUPPEDbcHINGEDbi LOWbjMIDDLE UPbs THUMB SIDEbcMIDDLEbi BENTbn THU",
   "MB STRAIGHTbjCONJOINEDbs CUPPEDbz THUMB FORWARDbtHINGEDbz THUMB SIDEbtINDEX BENTbtMIDDLE B",
   "ENTbtTHUMB FORWARDbzSIDEcd BENTceCONJOINEDbkROSS LITTLEboEDbq THUMB SIDEbjHINGEDbp SPREAD ",
   "THUMB SIDEbjLITTLEbjRAISED KNUCKLESbkINGbn BENTboCONJOINEDbjSTRAIGHT THUMB BENTbjTHUMBbo A",
   "NGLEDbv OUTbpBENTbpCIRCLEDbqONJOINED HINGEDbqUPPEDbpHINGEDbqOOKEDbjUP SPREAD THUMB FORWARD",
   "bcRAISED KNUCKLEbdING LITTLEbcTHUMB ANGLED IN MIDDLE UPbpOUT MIDDLE UPbiCIRCLEboD MIDDLE U",
   "PbjUPPED MIDDLE UPbkRLICUEblVE THUMB INSIDEbuUNDERbiFORWARD INDEX BENTbwSTRAIGHTbiHOOKbmED",
   " MIDDLE HINGEDbwUPbiSIDEbm BOTH BENTbnINDEX BENTbtHINGEbnTHUMB BENTbtCONJOINEDbtDIAGONALbc",
   "UP MIDDLE HINGEDbs THUMB CONJOINEDbzSIDEawLITTLE BENTbdDOWNbh OTHERS CIRCLEDbiRIPPLE CURVE",
   "DbpSTRAIGHTbdINDEXbi THUMBbdRAISED KNUCKLEbdTHUMBbeOUCHES THUMBbdUPawMIDDLE BENT OVER INDE",
   "XbdDOWNbdLITTLEbdRAISED KNUCKLEbeING LITTLEbdTHUMB ANGLED INDEX UPbqOUT INDEX CROSSEDcaUPb",
   "jCIRCLED INDEX HINGEDbxUPbkUPPED INDEX UPbjHOOKED INDEX UPbjLITTLEbdUPbf THUMB SIDEawRING ",
   "DOWNbbINDEXbbLITTLEbbMIDDLEbh CONJOINEDbiRAISED KNUCKLESbbRAISED KNUCKLEbbTHUMBbbUPawTHUMB",
   "bb BETWEEN INDEX MIDDLEbw STRAIGHTbkMIDDLE RINGbkRING LITTLEbcFORWARDbcHEELbcOVER FOUR RAI",
   "SED KNUCKLESbhTWO FINGERSbcSIDE BENTbhCONJOINEDbhDIAGONALbcUNDER FOUR FINGERSbiINDEX BENTb",
   "iLITTLE UPbiTHREE FINGERSbjWO FINGERSasLATav BETWEEN PALM FACINGSawFIVE FINGERS SPREADbp B",
   "ENTbqFOUR BENTbqHINGEDbw NO THUMBbxTHUMB SIDEbqTHUMB FORWARDaxOUR FINGERSbi BENTbjCONJOINE",
   "Dbs SPLITbjHINGEDawHEELba FIVE FINGERS SPREADbu BENTbvFOUR BENTbbTHUMB SIDEawSPLIT CENTREb",
   "i THUMB SIDEbt BENTbcINDEX THUMB SIDEbcLITTLEawTHUMB BENTbcFORWARDbcSIDEarHINGEaw FIVE FIN",
   "GERS SPREAD OPENayOUR FINGERS CONJOINEDaxINDEXbc HINGEDbdMIDDLE LITTLEbkRINGbo CONJOINEDbd",
   "RING LITTLEbdTHUMBbi LARGEbjOPENbjSIDEbkMALLaxLITTLEbd INDEXbj THUMBbeTHUMBaxMIDDLEbd RING",
   " LITTLEaxNO THUMBaxOPENbb NO THUMBbcTHUMB FORWARDbiSIDEaxRINGbb DOWN INDEX THUMB HOOK MIDD",
   "LEaxSMALLaxTHUMB BETWEEN MIDDLE RINGbdSIDEbh TOUCHING INDEXasOOKav CURLICUEawINDEX RING LI",
   "TTLE INboOUTboUNDERawMIDDLE RING LITTLE CONJOINEDby INbzOUTbdTHUMBawRING THUMBarOVALav FIV",
   "E FINGERS SPREADawINDEXawLITTLE UPawNO THUMBawRING LITTLEawTHUMB FORWARDbcSIDEanEADaq MOVE",
   "MENT CIRCLEaz-FLOORPLANE CURVEblSTRAIGHTbaWALLPLANE CURVEbkSTRAIGHTbkTILTarRIMamLIMB COMBI",
   "NATIONarLENGTH-1ay2ay3ay4ay5ay6ay7aoP LOWER OVER UPPERaqUPPER OVER LOWERapS PRESSED TOGETH",
   "ERanOCATION DEPTHavHEAD NECKaxIGHTavLIMBS DIGITSavTORSOavWIDTHau-FLOORPLANE SPACEavWALLPLA",
   "NE SPACEamMOUTH CLOSED CONTACTazFORWARDazNEUTRALatORNERSasFROWNax OPENayWRINKLEDasKISSaw F",
   "ORWARDaxWRINKLEDasOPEN CIRCLEaxFORWARDaxOVALbb WRINKLEDbcYAWNaxRECTANGLEbg WRINKLEDbhYAWNa",
   "xWRINKLEDasSMILEax OPENayWRINKLEDasTENSEax FORWARDaySUCKEDasWRINKLES DOUBLEbbSINGLEaoVEMEN",
   "T-DIAGONAL AWAY LARGEboSTbjMEDIUMbjSMALLbeBETWEEN AWAY LARGEbwSTbrMEDIUMbrSMALLbmTOWARDS L",
   "ARGEbzSTbuMEDIUMbuSMALLbeTOWARDS LARGEbrSTbmMEDIUMbmSMALLavFLOORPLANE ARM CIRCLE HITTING W",
   "ALL LARGE DOUBLEckSINGLEceMEDIUM DOUBLEclSINGLEceSMALL DOUBLEckSINGLEbgBENDbhOX LARGEbkMED",
   "IUMbkSMALLbgCHECKbhORNER LARGEbnMEDIUMbnSMALLbhROSSbhURVE COMBINEDbmHITTING CEILING LARGEc",
   "cSMALLbuFLOOR LARGEcaSMALLbmLARGEbrSTbmMEDIUMbmSMALLbgDOUBLE ALTERNATINGby WRIST FLEXbnSTR",
   "AIGHTbnWRIST FLEXbgFINGER CIRCLES HITTING WALL DOUBLEciSINGLEboONTACTbgHUMP HITTING CEILIN",
   "G LARGE DOUBLEchTRIPLEcbSMALL DOUBLEchTRIPLEbtFLOOR LARGE DOUBLEbzSMALL DOUBLEbzTRIPLE LAR",
   "GE TRIPLEcgSMALL TRIPLEblSMALLbgJAWbgLOOP HITTING CEILING LARGE DOUBLEchSINGLEcbSMALL DOUB",
   "LEchSINGLEbtFLOOR LARGE DOUBLEcfSINGLEbzSMALL DOUBLEcfSINGLEblSMALLbgPEAKS LARGEbmMEDIUMbm",
   "SMALLbgSHAKING PARALLELbhINGLE STRAIGHT LARGEcbSTbwMEDIUMbwSMALLbnWRIST FLEXbgTRIPLE ALTER",
   "NATING MOVEMENTbzWRIST FLEXbnSTRAIGHT MOVEMENTbnWRIST FLEXbgWAVE HITTING CEILING LARGEcbSM",
   "ALLbtFLOOR LARGEbzSMALLblLARGEblSMALLbmNAKEbhRIST CIRCLE HITTING WALL DOUBLEcgSINGLEbgZIGZ",
   "AG LARGEbnMEDIUMbnSMALLavHINGE DOWN SEQUENTIALbbSIDE TO SIDE SCISSORSbbUP DOWN ALTERNATING",
   " LARGEbvSMALLbjLARGEbjSMALLbeSEQUENTIALavWALLPLANE ARM CIRCLE MEDIUM DOUBLEbxSINGLEbqSMALL",
   " DOUBLEbwSINGLEbfBEND LARGEbkMEDIUMbkSMALLbgOX LARGEbjMEDIUMbjSMALLbfCHECK LARGEblMEDIUMbl",
   "SMALLbgORNER LARGEbmMEDIUMbmROTATIONbmSMALLbgROSSbgURVE HALF-CIRCLE LARGEccSTbxMEDIUMbxSMA",
   "LLbmITTING CHESTbtFRONT WALLblQUARTER LARGEbySTbtMEDIUMbtSMALLblTHEN STRAIGHTbnREE-QUARTER",
   " CIRCLE MEDIUMcgSMALLbkD CROSS MEDIUMbsSMALLbfDOUBLE ALTERNATINGbx WRIST FLEXbmSTRAIGHTbmW",
   "RIST FLEXbfFINGER CIRCLES DOUBLEbuSINGLEbnONTACTbfHUMP HITTING CHESTbsFRONT WALLbkLARGEbkM",
   "EDIUMbkSMALLbfJAWbfLOOP HITTING CHESTbsFRONT WALLbkLARGEbkMEDIUMbkSMALLbp DOUBLEbfPEAKS LA",
   "RGEblMEDIUMblSMALLbfSHAKINGbgINGLE STRAIGHT LARGEcaSTbvMEDIUMbvSMALLbmWRIST FLEXbfTRIPLE A",
   "LTERNATINGbx WRIST FLEXbmSTRAIGHT MOVEMENTbmWRIST FLEXbfWAVE CURVE DOUBLE LARGEbxMEDIUMbxS",
   "MALLbqTRIPLE LARGEbxMEDIUMbxSMALLbkDIAGONAL PATH LARGEbyMEDIUMbySMALLbkHITTING CHESTbsFRON",
   "T WALLbgRIST CIRCLE FRONT DOUBLEbySINGLEbfZIGZAG LARGEbmMEDIUMbmSMALLamNECKanOSE CONTACTar",
   "NEUTRALarWIGGLESasRINKLESamPARENTHESISamROTATION MODIFIER-10bf1bf2bf3bf4bf5bf6be2be3be4be5",
   "be6be7be8be9au-FLOORPLANE ALTERNATINGbr HITTING CEILINGcaFLOORbgDOUBLEbm HITTING CEILINGbv",
   "FLOORbgSINGLEbm HITTING CEILINGbvFLOORavWALLPLANE ALTERNATEbnING HITTING CHESTbzFRONT WALL",
   "bfDOUBLEbl HITTING CHESTbuFRONT WALLbfSINGLEbl HITTING CHESTbuFRONT WALLanUB BETWEENaqMULT",
   "IPLEaqSINGLEamSEMICOLONanHOULDER HIP POSITIONSazSPINEavTILTING FROM WAISTanQUEEZE FLICK AL",
   "TERNATINGauLARGE MULTIPLEbaSINGLEauSEQUENTIALavMALL MULTIPLEbaSINGLEanTRIKE BETWEENatMULTI",
   "PLEatSINGLEanURFACE BETWEENauSYMBOLSamTEETHar BITE LIPSasMOVEMENTasON LIPSaz MOVEMENTavTON",
   "GUEbb MOVEMENTaoNSE CHEEKS HIGHazLOWazMIDDLEanONGUE CENTRE INSIDE MOUTHbaSTICKING OUTatINS",
   "IDE MOUTH RELAXEDatLICKING LIPSatMOVES AGAINST CHEEKatSTICKING OUT FARatTIP BETWEEN LIPSax",
   "TOUCHING INSIDE MOUTHaoRSO-FLOORPLANE TWISTINGasWALLPLANE CURVED BENDbcSTRAIGHT STRETCHaoU",
   "CH BETWEENasMULTIPLEasSINGLEanRAVEL-FLOORPLANE ROTATION-FLOORPLANE ALTERNATINGbyDOUBLEbySI",
   "NGLEbnWALLPLANE ALTERNATINGbxDOUBLEbxSINGLEbeSHAKINGatWALLPLANE ARM SPIRAL DOUBLEboSINGLEb",
   "oTRIPLEbdROTATION-FLOORPLANE ALTERNATINGbxDOUBLEbxSINGLEbmWALLPLANE ALTERNATINGbwDOUBLEbwS",
   "INGLEbdSHAKINGamUPPER BODY TILTING FROM HIP JOINTSamWALLPLANE SHOULDER HIP MOVEacLHOUETTE ",
   "OF JAPANacMILAR ABOVE GREATER-THAN ABOVE EQUALS SIGNaoLESS-THAN ABOVE EQUALS SIGNaiMINUS S",
   "IMILARaiOR GREATER-THANalLESS-THANacNE WAVEadGLE CHARACTER INTRODUCERahGRAPHIC CHARACTER I",
   "NTRODUCERahHIGH-REVERSED-9 QUOTATION MARKahLEFT-POINTING ANGLE QUOTATION MARKaiOW-9 QUOTAT",
   "ION MARKahRIGHT-POINTING ANGLE QUOTATION MARKahSHIFT THREEaoWOag-SHIFT-2an3adHALA ARCHAIC ",
   "DIGIT EIGHTawFIVEaxOURawNINEawONEawSEVENaxIXawTHREEaxWOaqNUMBER EIGHTYaxFIFTYayORTYaxNINET",
   "YaxONE HUNDREDbbTHOUSANDaxSEVENTYayIXTYaxTENayHIRTYayWENTYaiLETTER AAYANNAaqEEYANNAarYANNA",
   "aqIYANNAaqLPAPRAANA BAYANNAbaCAYANNAbaDAYANNAbbDAYANNAbaGAYANNAbaJAYANNAbaKAYANNAbaPAYANNA",
   "baTAYANNAbbTAYANNAaqMBA BAYANNAaqUYANNAaqYANNAapDANTAJA LAYANNAaxNAYANNAaxSAYANNAapEEYANNA",
   "aqYANNAapFAYANNAapHAYANNAapIIYANNAaqLUUYANNAasYANNAaqRUUYANNAasYANNAaqYANNAapKANTAJA NAASI",
   "KYAYAapMAHAAPRAANA BAYANNAbbCAYANNAbbDAYANNAbcDAYANNAbbGAYANNAbbJAYANNAbbKAYANNAbbPAYANNAb",
   "bTAYANNAbcTAYANNAarYANNAaqUURDHAJA LAYANNAazNAYANNAazSAYANNAapOOYANNAaqYANNAapRAYANNAapSAN",
   "YAKA DAYANNAayDAYANNAaxGAYANNAaxJAYANNAapTAALUJA NAASIKYAYAaxSANYOOGA NAAKSIKYAYAazYANNAap",
   "UUYANNAaqYANNAapVAYANNAapYAYANNAajITH DIGIT EIGHTatFIVEauOURatNINEatONEatSEVENauIXatTHREEa",
   "uWOatZEROaiPUNCTUATION KUNDDALIYAaiSIGN AL-LAKUNAaoNUSVARAYAanCANDRABINDUanVISARGAYAaiVOWE",
   "L SIGN AELA-PILLAatDIGA AEDA-PILLAayGAETTA-PILLAbaYANUKITTAayIS-PILLAayKOMBUVAayPAA-PILLAa",
   "tGAETTA-PILLAavYANUKITTAatKETTI AEDA-PILLAazIS-PILLAazPAA-PILLAauOMBU DEKAayVAba HAA AELA-",
   "PILLAbfDIGA AELA-PILLAbfGAYANUKITTAacX PETALLED BLACK AND WHITE FLORETTEafOINTED BLACK STA",
   "RamPINWHEEL STARamSTAR WITH MIDDLE DOTad-PER-EM SPACEadTEEN POINTED ASTERISKabKATEBOARDacI",
   " AND SKI BOOTadERacULLaf AND CROSSBONESadNKabLANTED EQUAL TO OR GREATER-THANbg WITH DOT IN",
   "SIDEauLESS-THANbd WITH DOT INSIDEaiNORTH ARROW WITH HOOKED HEADbbRIZONTAL TAILadVONIC ASTE",
   "RISKacEDadEPING ACCOMMODATIONajFACEajSYMBOLafY FACEadUTH OR SPYacICE OF PIZZAadGHTLY FROWN",
   "ING FACEajSMILING FACEacOPEaeING LARGE ANDaoORadT MACHINEaeHabMALL AIRPLANEahMPERSANDahSTE",
   "RISKagBLUE DIAMONDagCOLONaiMMAakERCIAL ATaiNTAINS AS MEMBERapWITH OVERBARauVERTICAL BAR AT",
   " END OF HORIZONTAL STROKEagDOLLAR SIGNagELEMENT OFaq WITH OVERBARawVERTICAL BAR AT END OF ",
   "HORIZONTAL STROKEahM DASHahQUALS SIGNahXCLAMATION MARKagFULL STOPagGREATER-THAN SIGNagHYPH",
   "EN-MINUSagIDEOGRAPHIC COMMAagLEFT CURLY BRACKETalPARENTHESISalTORTOISE SHELL BRACKETaiSS-T",
   "HAN SIGNagNUMBER SIGNagORANGE DIAMONDagPERCENT SIGNahLUS SIGNagQUESTION MARKagREVERSE SOLI",
   "DUSahIGHT CURLY BRACKETamPARENTHESISamTORTOISE SHELL BRACKETahOMAN NUMERAL EIGHTavLEVENauF",
   "IFTYawVEay HUNDREDavOURauNINEauONEax HUNDREDayTHOUSANDauSEVENavIXauTENavHREEavWELVEawOagSE",
   "MICOLONagTILDEahWO DOTS OVER ONE DOT PUNCTUATIONagVEE WITH UNDERBARafER THANam OR EQUAL TO",
   "adSH PRODUCTacILEaeING CAT FACE WITH HEART-SHAPED EYESawOPEN MOUTHaiFACE WITH HALOatEART-S",
   "HAPED EYESatORNSasOPEN MOUTHbc AND COLD SWEATbhSMILING EYESbhTIGHTLY-CLOSED EYESasSMILING ",
   "EYESbe AND HAND COVERING MOUTHbjTHREE HEARTSatUNGLASSESasTEARadRKING FACEacOKING SYMBOLabN",
   "AILadKEacEEZING FACEacOW CAPPED MOUNTAINaeBOARDERaeFLAKEaeMANah WITHOUT SNOWabOacCCER BALL",
   "adKSacFT HYPHENafICE CREAMafSHELL FLOPPY DISKaeBALLaeWARE-FUNCTION SYMBOLacGDIAN COMBINING",
   " CURVE ABOVEayBELOWasDOT ABOVEawBELOWasHOOK ABOVEaxBELOWasLONG HOOK BELOWasRESH BELOWasSTR",
   "OKE BELOWasTWO DOTS ABOVEbbBELOWaiINDEPENDENT SHINaiLETTER ALEPHaqYINapBETHapFETHapGIMELap",
   "HEarTHapKAPHapLAMEDHaqESHapMEMapNUNapPEapRESH-AYINapSADHEarMEKHaqHINapTAWapWAWapYODHapZAYI",
   "NaiNUMBER ONEas HUNDREDapTENaqWENTYaiPUNCTUATION CIRCLE WITH DOTauHALF CIRCLE WITH DOTauTW",
   "O CIRCLES WITH DOTSayVERTICAL BARSbl WITH DOTSacHacLID QUILT SQUARE ORNAMENTbb IN BLACK SQ",
   "UAREafUSah WITH OVERBARacM SIGNacON WITH RIGHTWARDS ARROW ABOVEacRA SOMPENG DIGIT EIGHTatF",
   "IVEauOURatNINEatONEatSEVENauIXatTHREEauWOatZEROanLETTER AHauBAHauCAHauDAHauEEHavHauGAHauHA",
   "HauIHauJAHauKAHauLAHauMAEawHauNAHavGAHavYAHauOHauPAHauRAHauSAHauTAHauUHauVAHauYAHacSacUND ",
   "RECORDING COPYRIGHTadTH EAST ARROWaq AND SOUTH WEST ARROWarCROSSING NORTH EAST ARROWarTO C",
   "ORNERarWITH HOOKalBLACK ARROWalDOUBLE ARROWalPOINTING BUDauLEAFauVINE LEAFalSANS-SERIF ARR",
   "OWalTRIANGLE-HEADED ARROWbg TO BARalWHITE ARROWagWEST ARROWaq AND NORTH WEST ARROWarWITH H",
   "OOKalBLACK ARROWalDOUBLE ARROWalPOINTING BUDauLEAFauVINE LEAFalSANS-SERIF ARROWalTRIANGLE-",
   "HEADED ARROWbg TO BARalWHITE ARROWacYOMBO CLUSTER-INITIAL LETTER LAbfRAbfSAbgHAaiFINAL CON",
   "SONANT SIGN -AbdBbdDbdGbdKbdLbdMbdNbeGbdRbdSbeHaiGEMINATION MARKaiHEAD MARK WITH MOON AND ",
   "SUNbj AND FLAMEboTRIPLE FLAMEaiLETTER -AapAapBAaqHAapCAaqHAapDAaqDAarHAaqHAaqZAapGAaqHAapH",
   "AapJAaqHAapKAaqHAaqSSAapLAapMAapNAaqGAaqNAaqYAapPAaqHAapRAapSAaqHAaqSAapTAaqHAaqSAarHAaqTA",
   "arHAapVAapYAapZAaqHAaiMARK DOUBLE SHADanPLUTAanSHADanTSHEGaiSIGN ANUSVARAanJIHVAMULIYAanUP",
   "ADHMANIYAanVISARGAajUBJOINERaiTERMINAL MARK-1aw2aiVOWEL LENGTH MARKaoSIGN AIauUatEatIatOau",
   "EatUauEatVOCALIC LbbRabPacAadCEadGHETTIadRKLEahSagING HEARTacEAK-NO-EVIL MONKEYafERah WITH",
   " CANCELLATION STROKEanONE SOUND WAVEanTHREE SOUND WAVESafING HEAD IN SILHOUETTEadECH BALLO",
   "ONaeDBOATadSMILO SIGNacHERICAL ANGLEap OPENING LEFTayUPacIDERag WEBadRAL CALENDAR PADahNOT",
   "E PADahSHELLacLASHING SWEAT SYMBOLacONGEadOL OF THREADaeNadRTS MEDALadUTING WHALEabQUARE A",
   " OVER MaiARUaiMaiNPEAaiPAATOaiRUHUAaiUahBAARERUajRaiEETAaiIRUaiORUTOaiQaiUSSYERUahC OVER K",
   "GaiALajPaiCaiDaiMaj CUBEDakSQUAREDaiOajRPORATIONaiUPahDAajASUaiBaiESIaiJaiLaiMaj CUBEDakSQ",
   "UAREDaiORUahEEKAAaiRA NAME HEISEIaqMEIZIaqREIWAaqSYOUWAaqTAISYOUajGaiSUKUUDOaiVahFMaiOOTaj",
   "UR CORNERSahGALajNMAajRONaiBaiHZaiIGAajNIIajRUDAAaiPAaiURAMUanTONaiYahHAajITUaiEKUTAARUajR",
   "UTUaiGaiIRAGANA HOKAaiONajONakRUaiPajAaiUARADDOajIITOajRANaiZahIMAGE OFap OR EQUAL TOatNOT",
   " EQUAL TOaiNajINGUajTIaiUahK OHMaiAajIRIajRATTOakORIIaiBaiCALaiEESUaiGaiHZaiIROalGURAMUalM",
   "EETORUalWATTOaiKaiLaiMaj CAPITALalUBEDakSQUAREDaiOOPOajRUNAaiPAaiTaiUROONEakUZEIROaiVaiWai",
   "YURIIahLEFT OPEN BOX OPERATORaiMaiNaiOGajZENGEaiXahM CUBEDajOHMakVER Sap SQUAREDajSQUAREDa",
   "iAajHHAajIKUROakRUajNSYONajRUKUaiBaj SMALLaiEETORUajGAalTONaiGaiHZaiIKURONajLajRIalBAARUai",
   "LaiMaj CUBEDakSQUAREDaiOLaiPAaiSaiU AakFakGakLakMakSakVakWaiVaj MEGAaiWaj MEGAahNAajNOaiFa",
   "iMaiOTTOaiSaiVaiWahONSUaiOMUaiRIGINAL OFas OR EQUAL TOawNOT EQUAL TOaiVahPAaj AMPSajASENTO",
   "akTUaiCaiEEZIajNIHIakSUajSOaiFaiHaiIASUTORUajKOakURUaiMaiOINTOajNDOajSITION INDICATORaiPMa",
   "iRaiSaiVaiWahRADak OVER Sar SQUAREDaiEMUajNTOGENaiIGHT OPEN BOX OPERATORajRAajTTORUaiOOTai",
   "UPIIajUBURUahSAIKURUajNTIIMUaiENTIalOaiIRINGUaiRaiVahTARGETaiHZaiONahUONahV OVER MahWATTOa",
   "iBaiITH BOTTOM HALF BLACKamCONTOURED OUTLINEamDIAGONAL CROSSHATCH FILLamHORIZONTAL FILLamL",
   "EFT HALF BLACKanOWER LEFT DIAGONAL HALF BLACKasRIGHT DIAGONAL HALF BLACKamORTHOGONAL CROSS",
   "HATCH FILLamRIGHT HALF BLACKamTOP HALF BLACKamUPPER LEFT DIAGONAL HALF BLACKaxTO LOWER RIG",
   "HT FILLasRIGHT DIAGONAL HALF BLACKayTO LOWER LEFT FILLamVERTICAL FILLahYAADOakRUaiUANagD A",
   "STERISKaiCJK UNIFIED IDEOGRAPH-4E00bh9bg2Dbg8CbgA4be518Dbf21Dbg4Dbg72bf3CCbgF3bf408bg39bf5",
   "B6bf8F0bf91Abg29bfB57bfDE6bfF8Cbe624Bbg53bg95bf307bg55bf599bgB0bf620bf708bh9bfE80bfF14be71",
   "21bf51Fbg33bf981bfA7AbfD42be89E3bfCA9bfD70be904Abf14DajLajOOLaiDOT OPERATORaiEIGHT KaiFALL",
   "ING DIAGONAL SLASHajIVE POINT ONEajOUR DOT PUNCTUATIONanKajREEaiHCajDRajI-RESajVaiIDaiKATA",
   "KANA DEarKOKOarSAajEYaiLATIN CAPITAL LETTER AbdBbdCbdDbdEbdFbdGbdHbdIbdJbdKbdLbdMbdNbdObdP",
   "bdQbdRbdSbdTbdUbdVbdWbdXbdYbdZaoSMALL LETTER DajOGICAL ANDaqORakSSLESSaiMINUSajVaiNEWajGai",
   "OKajNE HUNDRED TWENTY PaiPLUSajPVaiRISING DIAGONAL SLASHaiSALTIREajDajECOND SCREENakVEN PO",
   "INT ONEajHVajIXTY PajMALL CIRCLEajOSajQUAREajSaiTHREE DajIMESajWENTY-TWO POINT TWOakO KaiU",
   "HDajP WITH EXCLAMATION MARKaiVODajSaiWCaeT BLACK RIGHTWARDS ARROWadIDabS2ac3acAabTacADIUMa",
   "dFF OF AESCULAPIUSajHERMESadMPED ENVELOPEadNDING PERSONadR AND CRESCENTafEQUALSafOF DAVIDa",
   "gPERATORafWITH LEFT HALF BLACKakRIGHT HALF BLACKaeT OF GUARDED AREAajHEADINGajPROTECTED AR",
   "EAajSELECTED AREAakTRINGajTEXTadTIONaeUE OF LIBERTYacEAM LOCOMOTIVEafING BOWLadNOGRAPHIC F",
   "ULL STOPadTHOSCOPEacICK FIGUREam LEANING LEFTavRIGHTanWITH ARMS RAISEDasDRESSacOCK CHARTad",
   "PWATCHacRAIGHT RULERaiNESSaeWBERRYadESS OUTLINED WHITE STARadICTLY EQUIVALENT TOaeNG TERMI",
   "NATORacSacUDIO MICROPHONEadFFED FLATBREADadPAacXabUBadSCRIPT EIGHTalQUALS SIGNakFIVEalOURa",
   "kLEFT PARENTHESISakMINUSakNINEakONEakPLUS SIGNakRIGHT PARENTHESISakSEVENalIXakTHREEalWOakZ",
   "EROaeET ABOVE RIGHTWARDS ARROWanSUBSETapPERSETahOFaj ABOVE ALMOST EQUAL TOaqEQUALS SIGNaqN",
   "OT EQUAL TOaqTILDE OPERATORakOR EQUAL TOav WITH DOT ABOVEakWITH NOT EQUAL TOahWITH DOTamMU",
   "LTIPLICATION SIGN BELOWamPLUS SIGN BELOWaeTITUTEacCCEEDSai ABOVE ALMOST EQUAL TOapEQUALS S",
   "IGNapNOT ALMOST EQUAL TOatEQUAL TOapSINGLE-LINE EQUALS SIGNbbNOT EQUAL TOajBUT NOT EQUIVAL",
   "ENT TOajOR EQUAL TOapIVALENT TOajUNDER RELATIONacMMATION BOTTOMakTOPakWITH INTEGRALacNad B",
   "EHIND CLOUDaeWITH FACEadDANESE AVAGRAHAakCONSONANT SIGN PAMINGKALbbNYAKRAbdIKUbbSANGAN MAb",
   "iWAakDIGIT EIGHTaqFIVEarOURaqNINEaqONEaqSEVENarIXaqTHREEarWOaqZEROakLETTER AasEarBAasHAarC",
   "AarDAarEasUarFAasINAL KaxMarGAarHAarIarJAarKAasHAarLAasEUarMAarNAasGAasYAarOarPAarQAarRAas",
   "EUarSAasYAarTAarUarVAarWAarXAarYAarZAakPUNCTUATION BINDU BA SATANGAbcCAKRAbcDA SATANGAbcKA",
   " SATANGAbcLEU SATANGAbcPANGLONGbdURNAMAbcSURYAakSIGN PAMAAEHarNGLAYARatWISADasYECEKapVIRAM",
   "AakVOWEL SIGN PAMEPETaxNAELAENGayEULEUNGayGHULUayOLONGayYUKUadFLOWERadRISEah OVER MOUNTAIN",
   "SadSET OVER BUILDINGSacPERHEROafSCRIPT EIGHTanQUALS SIGNamFIVEanOURamLATIN SMALL LETTER Ib",
   "fNanEFT PARENTHESISamMINUSamNINEamONEamPLUS SIGNamRIGHT PARENTHESISamSEVENanIXamTHREEanWOa",
   "mZEROagET ABOVE LEFTWARDS ARROWapSUBSETarPERSETajBESIDE AND JOINED BY DASH WITH SUBSETaqSU",
   "BSETajOFal ABOVE ALMOST EQUAL TOasEQUALS SIGNasNOT EQUAL TOasTILDE OPERATORamOR EQUAL TOax",
   " WITH DOT ABOVEamWITH NOT EQUAL TOajPRECEDING SOLIDUSajWITH DOTaoMULTIPLICATION SIGN BELOW",
   "aoPLUS SIGN BELOWafVILLAINacRFACE INTEGRALaeERacSHIadPENSION RAILWAYabWANadSH AMPERSAND OR",
   "NAMENTacIMMERacUNG DASHabYLOTI NAGRI LETTER AauBHOavOauCHOavOauDDHOawOavHOavOauEauGHOavOau",
   "HOauIauJHOavOauKHOavOauLOauMOauNOauOauPHOavOauROavROauSOauTHOavOavTHOawOauUanPOETRY MARK-1",
   "az2az3az4anSIGN ALTERNATE HASANTAatNUSVARAasDVISVARAasHASANTAanVOWEL SIGN AayEayIayOOayUac",
   "MBOL FOR ACKNOWLEDGEalBACKSPACEamELLalCANCELanRRIAGE RETURNalDATA LINK ESCAPEamELETEar FOR",
   "M TWOanVICE CONTROL FOURbaONEbaTHREEbbWOalEND OF MEDIUMasTEXTatRANSMISSIONbe BLOCKanQUIRYa",
   "mSCAPEalFILE SEPARATORamORM FEEDalGROUP SEPARATORalHORIZONTAL TABULATIONalLINE FEEDalMARKS",
   " CHAPTERalNEGATIVE ACKNOWLEDGEanWLINEamULLalRECORD SEPARATORalSAMARITAN SOURCEamHIFT INarO",
   "UTamPACEamTART OF HEADINGauTEXTamUBSTITUTEav FORM TWOamYNCHRONOUS IDLEalTYPE A ELECTRONICS",
   "alUNIT SEPARATORalVERTICAL TABULATIONadMETRYacNadAGOGUEadCHRONOUS IDLEacRIAC ABBREVIATION ",
   "MARKahBARREKHahCOLON SKEWED LEFTauRIGHTajNTRACTIONahDOTTED ZLAMA ANGULARauHORIZONTALahEND ",
   "OF PARAGRAPHaiSASA ABOVEanBELOWahFEMININE DOTahHARKLEAN ASTERISCUSaqMETOBELUSaqOBELUSaiBAS",
   "A ABOVEanBELOWam-ESASA DOTTEDaiORIZONTAL COLONahLETTER ALAPHaoBETHaoDALATHapOTLESS DALATH ",
   "RISHaoEaoFINAL SEMKATHaoGAMALat GARSHUNIaoHEaqTHaoKAPHaoLAMADHaoMALAYALAM BHAayJAayLLAbaLA",
   "ayNGAazNAbaNAazYAayRAaySSAayTTAapIMaoNUNaoPEaqRSIAN BHETHawDHALATHawGHAMALaoQAPHaoREVERSED",
   " PEapISHaoSADHEapEMKATHapHINapOGDIAN FEawKHAPHawZHAINapUPERSCRIPT ALAPHaoTAWapETHas GARSHU",
   "NIaoWAWaoYUDHas HEaoZAINahMUSICahOBLIQUE LINE ABOVEauBELOWahPTHAHA ABOVEaoBELOWaoDOTTEDahQ",
   "USHSHAYAahRBASA ABOVEanBELOWaiUKKAKHAaiWAHAahSUBLINEAR COLONaw SKEWED LEFTbeRIGHTarFULL ST",
   "OPajPRALINEAR COLONay SKEWED LEFTatFULL STOPahTHREE DOTS ABOVEasBELOWaiWO VERTICAL DOTS AB",
   "OVEazBELOWahZQAPHA ABOVEaoBELOWaoDOTTEDaeNGEaaT-REXacSHIRTabABadLE TENNIS PADDLE AND BALLa",
   "cCOacG AMPERSANDafPOSTROPHEafSTERISKaeCIRCUMFLEX ACCENTafOLONagMMAaiERCIAL ATaeDIGIT EIGHT",
   "akFIVEalOURakNINEakONEakSEVENalIXakTHREEalWOakZEROafOLLAR SIGNaeEQUALS SIGNafXCLAMATION MA",
   "RKaeFULL STOPaeGRAVE ACCENTagEATER-THAN SIGNaeHYPHEN-MINUSaeLATIN CAPITAL LETTER AazBazCaz",
   "DazEazFazGazHazIazJazKazLazMazNazOazPazQazRazSazTazUazVazWazXazYazZakSMALL LETTER AaxBaxCa",
   "xDaxEaxFaxGaxHaxIaxJaxKaxLaxMaxNaxOaxPaxQaxRaxSaxTaxUaxVaxWaxXaxYaxZafEFT CURLY BRACKETajP",
   "ARENTHESISajSQUARE BRACKETagSS-THAN SIGNafOW LINEaeNUMBER SIGNaePERCENT SIGNafLUS SIGNaeQU",
   "ESTION MARKagOTATION MARKaeREVERSE SOLIDUSafIGHT CURLY BRACKETakPARENTHESISakSQUARE BRACKE",
   "TaeSEMICOLONafOLIDUSafPACEaeTILDEaeVERTICAL LINEadALOG LETTER AaqRCHAIC RAapBAapDAapGAapHA",
   "apIapKAapLAapMAapNAaqGAapPAapRAapSAapTAapUapWAapYAaiSIGN PAMUDPODanVIRAMAaiVOWEL SIGN IatU",
   "adBANWA LETTER AaqBAaqDAaqGAaqIaqKAaqLAaqMAaqNAarGAaqPAaqSAaqTAaqUaqWAaqYAajVOWEL SIGN Iau",
   "UacI LE LETTER AapIapUEaoEapEapHaoFAaoHAaoIaoKAapHAaoLAaoMAaoNAapGAaoOapOaoPAapHAaoQAaoSAa",
   "oTAapHAapONE-2at3at4at5at6apSAaqHAaoUapEaoVAaoXAaoYAaeTHAM COMBINING CRYPTOGRAMMIC DOTalNS",
   "ONANT SIGN BAayFINAL NGAayHIGH RATHA OR LOW PAayLA TANG LAIazOW PAayMAazEDIAL LAbfRAaySAaj",
   "HORA DIGIT EIGHTauFIVEavOURauNINEauONEauSEVENavIXauTHREEavWOauZEROajLETTER AaqBAaqDAaqEEaq",
   "GREAT SAaqHIGH CAawHAavFAavHAavKAawHAawXAavPAawHAavRATHAavSAawHAawSAavTAawHAavYAaqIarIaqLA",
   "asEarLAarOW CAavHAauFAauHAauKAavHAavXAauPAavHAauRATHAauSAauTAavHAauYAarUEaqMAaqNAarGAarYAa",
   "qOOaqRAasNAasTAarUEaqUarUaqWAajSIGN CAANGaoDOKMAIaoHANGapOYaoKAANasKUUapEOWapHUEN TONE-3az",
   "4az5at-LUE KARANaoMAI KANGaw LAIasSAMasYAMOKaoRA HAAMapEVERSED ROTATED RANAaoSAKOTaqTKAANa",
   "vKUUaqWANaoTONE-1at2aoWIANGatWAAKajTHAM DIGIT EIGHTauFIVEavOURauNINEauONEauSEVENavIXauTHRE",
   "EavWOauZEROajVOWEL SIGN AavAavEavIauEauIavIauMAI SATauOavA ABOVEaxBELOWavOavYauTALL AAavHA",
   "M AIauUavEavUawEaeVIET LETTER HIGH BOavCHOawOavDOavFOavGOavHOavKHHOaxOawOavLOavMOavNGOawOa",
   "wYOavOavPHOawOavROavSOavTHOawOavVOavYOaqLOW BOauCHOavOauDOauFOauGOauHOauKHHOawOavOauLOauMO",
   "auNGOavOavYOauOauPHOavOauROauSOauTHOavOauVOauYOajMAI KANGaoHITajSYMBOL HO HOIaqKOI KOIasNa",
   "qNUENGaqSAMajTONE MAI EKasNUENGasSONGasTHOajVOWEL AAaqMaqNaqUEaqYapEapIaqAapOapUaqAaqEarAa",
   "cKEOUT BOXadRI ABBREVIATION SIGNagDIGIT EIGHTamFIVEanOURamNINEamONEamSEVENanIXamTHREEanWOa",
   "mZEROagLETTER AaoAaoIaoRCHAIC KHAaoUanBAaoHAanCAaoHAanDAaoDAapHAaoHAanEanGAaoHAanHAanIaoIa",
   "nJAaoHAanKAaoHAanLAanMAanNAaoGAaoNAaoYAanOanPAaoHAanRAaoRAanSAaoHAanTAaoHAaoTAapHAanUaoUan",
   "VAanYAagSIGN ANUSVARAalNUKTAalVIRAMAanSARGAagVOWEL SIGN AAasIasUarEarIasIarOarUasUacLLY MA",
   "RK FIVEalONEacMALEadIL AND ODD SIGNahS ABOVE SIGNahU LENGTH MARKagCREDIT SIGNahURRENT SIGN",
   "agDAY SIGNahEBIT SIGNahIGIT EIGHTamFIVEanOURamNINEamONEamSEVENanIXamTHREEanWOamZEROahRY CU",
   "LTIVATION SIGNagFRACTION DOWNSCALING FACTOR KIIZHapONE EIGHTHayIETHatFIFTHauORTIETHatHALF-",
   "1ay2atONE-HUNDRED-AND-SIXTIETHatQUARTERatSIXTEENTH-1bd2axY-FOURTHatTENTHauHIRTY-SECONDavRE",
   "E-HUNDRED-AND-TWENTIETHauWENTIETHapTHREE EIGHTIETHSavQUARTERSavSIXTEENTHSazY-FOURTHSavTWEN",
   "TIETHSagIN POSSESSION SIGNagLAND SIGNahETTER AaoAaoIaoUanCAanEaoEanHAanIaoIanJAanKAanLAaoL",
   "AapLAanMAanNAaoGAaoNAapNAaoYAanOaoOanPAanRAaoRAanSAaoHAaoSAanTAaoTAanUaoUanVAanYAagMONTH S",
   "IGNagNUMBER ONE HUNDREDarTHOUSANDanSIGNanTENagOMagPUNCTUATION END OF TEXTagRUPEE SIGNagSAL",
   "T PAN SIGNahIGN AAZHAAKKUamNUSVARAalCEVITUalKAACUamURUNIanZHIalMUKKURUNIanTHALIYAanUVUZHAK",
   "KUalNELalPAARAManNAManTHAKKUamONalUZHAKKUalVAKAIYARAAanRAAKANamELIamIRAMAanSARGAahPENT SIG",
   "NahTARTING FROM SIGNagTOTAL SIGNahRADITIONAL CREDIT SIGNasNUMBER SIGNagVOWEL SIGN AAasIasU",
   "arEasEarIasIarOasOarUasUagWET CULTIVATION SIGNagYEAR SIGNacNABATA TREEadGERINEaeSA DIGIT E",
   "IGHTanFIVEaoOURanNINEanONEanSEVENaoIXanTHREEaoWOanZEROahLETTER ACapQapWCaqQaqXaqZapXapZaoB",
   "AaoCAapHAaoDAapHAaoECapQapXapZaoFAapINAL NGaoGAapHAaoHAapTAaqTAaoICapQapXapZaoKAapHAaoLAap",
   "ONG UEXaoMAapCapQapXapZaoNAapGAapHAapYAaoOCapQapXapZaoPAapHAaoRAaoSAapHAaqORT AWXauUEZaoTA",
   "apHAapSAaoUCapECaqQaqXaqZapICaqQaqUCarQarXarZaqXaqZapQapXapZaoVCapQapXapZaoWAaoXAaoYAaoZAa",
   "eUT COMPONENT-001at2at3at4at5at6at7at8at9as10at1at2at3at4at5at6at7at8at9as20at1at2at3at4at",
   "5at6at7at8at9as30at1at2at3at4at5at6at7at8at9as40at1at2at3at4at5at6at7at8at9as50at1at2at3at",
   "4at5at6at7at8at9as60at1at2at3at4at5at6at7at8at9as70at1at2at3at4at5at6at7at8at9as80at1at2at",
   "3at4at5at6at7at8at9as90at1at2at3at4at5at6at7at8at9ar100at1at2at3at4at5at6at7at8at9as10at1a",
   "t2at3at4at5at6at7at8at9as20at1at2at3at4at5at6at7at8at9as30at1at2at3at4at5at6at7at8at9as40a",
   "t1at2at3at4at5at6at7at8at9as50at1at2at3at4at5at6at7at8at9as60at1at2at3at4at5at6at7at8at9as",
   "70at1at2at3at4at5at6at7at8at9as80at1at2at3at4at5at6at7at8at9as90at1at2at3at4at5at6at7at8at",
   "9ar200at1at2at3at4at5at6at7at8at9as10at1at2at3at4at5at6at7at8at9as20at1at2at3at4at5at6at7a",
   "t8at9as30at1at2at3at4at5at6at7at8at9as40at1at2at3at4at5at6at7at8at9as50at1at2at3at4at5at6a",
   "t7at8at9as60at1at2at3at4at5at6at7at8at9as70at1at2at3at4at5at6at7at8at9as80at1at2at3at4at5a",
   "t6at7at8at9as90at1at2at3at4at5at6at7at8at9ar300at1at2at3at4at5at6at7at8at9as10at1at2at3at4",
   "at5at6at7at8at9as20at1at2at3at4at5at6at7at8at9as30at1at2at3at4at5at6at7at8at9as40at1at2at3",
   "at4at5at6at7at8at9as50at1at2at3at4at5at6at7at8at9as60at1at2at3at4at5at6at7at8at9as70at1at2",
   "at3at4at5at6at7at8at9as80at1at2at3at4at5at6at7at8at9as90at1at2at3at4at5at6at7at8at9ar400at",
   "1at2at3at4at5at6at7at8at9as10at1at2at3at4at5at6at7at8at9as20at1at2at3at4at5at6at7at8at9as3",
   "0at1at2at3at4at5at6at7at8at9as40at1at2at3at4at5at6at7at8at9as50at1at2at3at4at5at6at7at8at9",
   "as60at1at2at3at4at5at6at7at8at9as70at1at2at3at4at5at6at7at8at9as80at1at2at3at4at5at6at7at8",
   "at9as90at1at2at3at4at5at6at7at8at9ar500at1at2at3at4at5at6at7at8at9as10at1at2at3at4at5at6at",
   "7at8at9as20at1at2at3at4at5at6at7at8at9as30at1at2at3at4at5at6at7at8at9as40at1at2at3at4at5at",
   "6at7at8at9as50at1at2at3at4at5at6at7at8at9as60at1at2at3at4at5at6at7at8at9as70at1at2at3at4at",
   "5at6at7at8at9as80at1at2at3at4at5at6at7at8at9as90at1at2at3at4at5at6at7at8at9ar600at1at2at3a",
   "t4at5at6at7at8at9as10at1at2at3at4at5at6at7at8at9as20at1at2at3at4at5at6at7at8at9as30at1at2a",
   "t3at4at5at6at7at8at9as40at1at2at3at4at5at6at7at8at9as50at1at2at3at4at5at6at7at8at9as60at1a",
   "t2at3at4at5at6at7at8at9as70at1at2at3at4at5at6at7at8at9as80at1at2at3at4at5at6at7at8at9as90a",
   "t1at2at3at4at5at6at7at8at9ar700at1at2at3at4at5at6at7at8at9as10at1at2at3at4at5at6at7at8at9a",
   "s20at1at2at3at4at5at6at7at8at9as30at1at2at3at4at5at6at7at8at9as40at1at2at3at4at5at6at7at8a",
   "t9as50at1at2at3at4at5at6at7at8at9as60at1at2at3at4at5at6at7at8ahITERATION MARKacPE CARTRIDG",
   "EafDRIVEacURUSacXIabEACUP WITHOUT HANDLEadPOTadR-OFF CALENDARaeDROP-BARBED RIGHTWARDS ARRO",
   "WajSPOKED ASTERISKacDDY BEARacLEPHONE LOCATION SIGNakON TOP OF MODEMakRECEIVERas WITH PAGE",
   "anORDERakSIGNaeSCOPEaeVISIONadUGU AI LENGTH MARKahDIGIT EIGHTanFIVEaoOURanNINEanONEanSEVEN",
   "aoIXanTHREEaoWOanZEROahFRACTION DIGIT ONE FOR EVEN POWERS OF FOURbeODD POWERS OF FOURawTHR",
   "EE FOR EVEN POWERS OF FOURbgODD POWERS OF FOURaxWO FOR EVEN POWERS OF FOURbeODD POWERS OF ",
   "FOURawZERO FOR ODD POWERS OF FOURahLENGTH MARKajTTER AapAapIapUaoBAapHAaoCAapHAaoDAapDAaqH",
   "AapHAapZAaoEapEaoGAapHAaoHAaoIapIaoJAapHAaoKAapHAaoLAapLAaqLAaoMAaoNAaqKAARA POLLUapGAapNA",
   "apYAaoOapOaoPAapHAaoRAapRAaqRAaoSAapHAapSAaoTAapHAapSAapTAaqHAaoUapUaoVAapOCALIC LaxLawRax",
   "RaoYAahSIGN ANUSVARAanVAGRAHAamCANDRABINDUanOMBINING ANUSVARA ABOVEawCANDRABINDU ABOVEamNU",
   "KTAamSIDDHAMamTUUMUamVIRAMAaoSARGAahVOWEL SIGN AAatIatUasEatEasIatIasOatOasUatUasVOCALIC L",
   "bbLbaRbbRacNGE SIGNadNIS RACQUET AND BALLadTacST TUBEacTRAGRAM FOR ACCUMULATIONapDVANCEapG",
   "GRAVATIONapSCENTaoBARRIERapOLD RESOLUTIONapRANCHING OUTaoCENTREapHANGEapLOSED MOUTHatNESSa",
   "sUREapOMPLETIONatIANCEaqNSTANCYarTACTasENTIONasRARIETYaoDARKENINGapECISIVENESSaqFECTIVENES",
   "S OR DISTORTIONaqPARTUREapIFFICULTIESaqMINISHMENTarMINGaqVERGENCEapOUBTapUTIESaoEASEapMBEL",
   "LISHMENTapNCOUNTERSaqDEAVOURaqLARGEMENTapTERNITYapXHAUSTIONaoFAILUREapLIGHTapOLLOWINGaqSTE",
   "RINGapULL CIRCLEasNESSaoGATHERINGax INapOING TO MEETapREATNESSapUARDEDNESSaoHARDNESSapOLDI",
   "NG BACKaoINCREASEaqNERaoJOYaoKEEPING SMALLapINSHIPaoLABOURINGaqW OR MODELapEGIONaoMASSINGa",
   "pEASUREapIREDaoON THE VERGEapPPOSITIONaoPACKINGaqTTERNapENETRATIONapURITYaoREACHaqLEASEaqS",
   "IDENCEasSTANCEarPONSEapITUALaoSEVERANCEapINKINGapTOPPAGEarVEaqRENGTHaoUNITYaoVASTNESS OR W",
   "ASTINGaoWAITINGaqTCHaoYOUTHFULNESSabHAANA AABAAFILIaiBAFILIahEBEFILIaiEBEEFILIaiYBEYFILIah",
   "IBIFILIahLETTER AINUapLIFUaoBAAaoCHAVIYANIaoDAADHUaqVIYANIapHAALUaoFAAFUaoGAAFUapHAINUapNA",
   "VIYANIaoHAAapHAAaoJAVIYANIaoKAAFUapHAAaoLAAMUapHAVIYANIaoMEEMUaoNAAapOONUaoPAVIYANIaoQAAFU",
   "aoRAAaoSAADHUapEENUapHAVIYANIaqEENUaoTAVIYANIapHAAasLUapOapTAAaoVAAVUaoWAAVUaoYAAaoZAAaqVI",
   "YANIapOahOABOAFILIaiBOFILIaiOBOOFILIahSUKUNahUBUFILIadI CHARACTER ANGKHANKHUapBO BAIMAIapC",
   "HO CHANaxGavINGavOEapDO CHADAasDEKapFO FAauNarNGMANapHO HIPasNOKHUKapKHO KHAIavONavUATavWA",
   "IatRAKHANGasMUTaqO KAIapLAKKHANGYAOaqO CHULAasLINGaqUapMAI CHATTAWAatEKatHAN-AKATatTHOauRI",
   "asTAIKHUasYAMOKaqO MAapNGO NGUaqIKHAHITaqO NENatUapO ANGapPAIYANNOIaqHINTHUarO PHANavUNGat",
   "SAMPHAOaqO PLAapRO RUAaqUapSARA AavAavEavI MAIMALAIbbUANavMauEauIavIauOauUavEawEavUaqO RUS",
   "IasSALAatOatUAapTHANTHAKHATarO NANGMONTHOatPHUTHAOatTHAHANawNavONGavUNGaqO PATAKasTAOapWO ",
   "WAENapYAMAKKANaqO YAKatINGagURRENCY SYMBOL BAHTafDIGIT EIGHTalFIVEamOURalNINEalONEalSEVENa",
   "mIXalTHREEamWOalZEROacERE DOES NOT EXISTagEXISTSafFOREaeMODYNAMICagMETERacIN GREEK CROSSaf",
   "SALTIREagPACEaeKING FACEadRD PLACE MEDALacONG SANDALadUGHT BALLOONacREE BUTTON MOUSEagCONS",
   "ECUTIVE EQUALS SIGNSagDIMENSIONAL ANGLEahOT PUNCTUATIONagLEFTWARDS ARROWSahINES CONVERGING",
   " LEFTaxRIGHTagNETWORKED COMPUTERSagPOINTED BLACK STARagRAYS ABOVEalBELOWalLEFTalRIGHTahIGH",
   "TWARDS ARROWSagSPEECH BUBBLESaf-D BOTTOM-LIGHTED RIGHTWARDS ARROWHEADaiLEFT-LIGHTED DOWNWA",
   "RDS EQUILATERAL ARROWHEADaiRIGHT-LIGHTED UPWARDS EQUILATERAL ARROWHEADaiTOP-LIGHTED LEFTWA",
   "RDS EQUILATERAL ARROWHEADauRIGHTWARDS ARROWHEADbfEQUILATERAL ARROWHEADagEM DASHagPER-EM SP",
   "ACEacUMBS DOWN SIGNahUP SIGNadNDER CLOUD AND RAINahSTORMabIBETAN ASTROLOGICAL SIGN -KHYUD ",
   "PAbaSDONG TSHUGSbbGRA GCAN -CHAR RTAGSaiCANTILLATION SIGN CANG TE-UbaHEAVY BEATbaLIGHT BEA",
   "TbaSBUB -CHALaiDIGIT EIGHTaoFIVEapOURaoHALF EIGHTatFIVEauOURatNINEatONEatSEVENauIXatTHREEa",
   "uWOatZEROaoNINEaoONEaoSEVENapIXaoTHREEapWOaoZEROaiKU RU KHAar BZHI MIG CANaiLETTER -AapAap",
   "BAaqHAapCAaqHAapDAaqDAarHAaqHAaqZAarHAapFIXED-FORM RAapGAaqHAapHAapJAapKAaqHAaqKAaqSSAapLA",
   "apMAapNAaqGAaqNAaqYAapPAaqHAapRAaqRAapSAaqHAaqSAapTAaqHAaqSAarHAaqTAarHAapWAapYAapZAaqHAaj",
   "OGOTYPE SIGN CHAD RTAGSawLHAG RTAGSaiMARK ANG KHANG GYASazONanBKA- SHOG GI MGO RGYANaxYIG ",
   "MGOaoSDUS RTAGSapKA- SHOG GI MGO RGYANaqUR YIG MGOanCARET -DZUD RTAGS BZHI MIG CANbfME LON",
   "G CANatYIG MGO PHUR SHAD MAaoHE MGOaoLOSING BRDA RNYING YIG MGO SGAB MAavYIG MGO SGAB MAan",
   "DELIMITER TSHEG BSTARanGTER TSHEGasYIG MGO -UM GTER TSHEG MAbeRNAM BCAD MAbaTRUNCATED AaoU",
   "G RTAGS GYASazONanHALANTAanINITIAL BRDA RNYING YIG MGO MDUN MAavYIG MGO MDUN MAapTERSYLLAB",
   "IC TSHEGanLEADING MCHAN RTAGSanMNYAM YIG GI MGO RGYANanNGAS BZUNG NYI ZLAaySGOR RTAGSaoYIS",
   " SHADasTSHEGax SHADanPALUTAanRGYA GRAM SHADaoIN CHEN SPUNGS SHADanSBRUL SHADaoHADanTRAILIN",
   "G MCHAN RTAGSaoSA -PHRUapHEG SHADanYIG MGO TSHEG SHAD MAaiSIGN GRU CAN RGYINGSarMED RGYING",
   "SanINVERTED MCHU CANanLCE TSA CANapI RTAGSanMAR TSHESaoCHU CANanNYI ZLA NAA DAanRDEL DKAR ",
   "GCIGayNYISaySUMaxRDEL NAGasNAG GCIGaxNYISaxSUMawRDEL DKARaoJES SU NGA ROaoNAM BCADanSNA LD",
   "ANanYANG RTAGSapR TSHESajUBJOINED LETTER -AazAazBAbaHAazCAbaHAazDAbaDAbbHAbaHAbaZAbbHAazFI",
   "XED-FORM RAbkWAbkYAazGAbaHAazHAazJAazKAbaHAbaSSAazLAazMAazNAbaGAbaNAbaYAazPAbaHAazRAazSAba",
   "HAbaSAazTAbaHAbaSAbbHAbaTAbbHAazWAazYAazZAbaHAasSIGN INVERTED MCHU CANaxLCE TSA CANaxMCHU ",
   "CANajYLLABLE OMakMBOL DRIL BUapNOR BUav BZHI -KHYILawGSUM -KHYILawNYIS -KHYILapPADMA GDANa",
   "qHUR PAapRDO RJEaw RGYA GRAMaiVOWEL SIGN AAatEauEatIauIatOauOatREVERSED IbdIatUauUatVOCALI",
   "C LbcLbbRbcRacCKETacE OVER INFINITYacFINAGH CONSONANT JOINERajLETTER AHAGGAR YAZHarYER YAG",
   "HaqBERBER ACADEMY YAHbhJaqTAWELLEMET YAZarUAREG YAGHbaNazHazKbaHazNGazQazZHaqYAasAasBatHas",
   "CHasDatDauHatHasFasGatHauHasHatHasJasKatHauHasLasMasNasPasQasRatRasSatHatSasTatHatTasVasWa",
   "sYasZatHatZarEasYarIarOarUajMODIFIER LETTER LABIALIZATION MARKajSEPARATOR MARKacGERaf FACE",
   "adHT TRIFOLIATE SNOWFLAKEacLDEaf OPERATORao ABOVE LEFTWARDS ARROWavRIGHTWARDS ARROWapWITH ",
   "DOT ABOVEauRISING DOTSagWITH DOT ABOVEapBELOWalRING ABOVEacMER CLOCKaeS WITH LEFT HALF BLA",
   "CKalRIGHT HALF BLACKacNYae TWO DOTS OVER ONE DOT PUNCTUATIONacRED FACEadHUTA ABBREVIATION ",
   "SIGNajNJIaiDIGIT EIGHTaoFIVEapOURaoNINEaoONEaoSEVENapIXaoTHREEapWOaoZEROaiGVANGaiLETTER Aa",
   "qAaqIaqUapBAaqHAapCAaqHAapDAaqDAarHAaqHAapEapGAaqHAapHAapIaqIapJAaqHAapKAaqHAapLAapMAapNAa",
   "qGAaqNAaqYAapOapPAaqHAapRAapSAaqHAaqSAapTAaqHAaqTAarHAapUaqUapVAaqOCALIC LayLaxRayRapYAaiO",
   "MaiSIGN ANUSVARAaoVAGRAHAanCANDRABINDUanNUKTAanVIRAMAapSARGAaiVOWEL SIGN AAauIauUatEatIauI",
   "atOatSHORT EazOatUauUatVOCALIC LbcLbbRbcRadONIAN SIGN CAPITAL ETaoETabOILETacKYO TOWERacMA",
   "TOacNGUEacOLBOXadTHafBRUSHacP ARC ANTICLOCKWISE ARROWbb WITH PLUSaiCLOCKWISE ARROW WITH MI",
   "NUSaeCURLY BRACKETaeHALF BLACK CIRCLEajINTEGRALajLEFT PARENTHESISajRIGHT PARENTHESISajSECT",
   "ION SIGNagTaeLEFT CORNERakROPajHALF BRACKETaePARENTHESISaeRIGHT CORNERalROPakHALF BRACKETa",
   "eSQUARE BRACKETaeTORTOISE SHELL BRACKETaeWITH UPWARDS ARROW ABOVEacRTOISE SHELL BRACKETED ",
   "CJK UNIFIED IDEOGRAPH-4E09bx8Cbv52DDbwB89bv6253bw557bw72Cbv70B9bw6D7azLATIN CAPITAL LETTER",
   " SacTAL RUNOUTadO LETTER AanEamBAanREATHY AEauEavOauIavUamCHAamDAamEanOamGAamHAamIanUamJAa",
   "mKAamLAamMAamNAanGAamOamPAamRAamSAamTAamUamWAamYAafSIGN RISING TONEabRACKBALLaeTORadDE MAR",
   "K SIGNadINadMae CARadNSPLUTOafVERSAL INTERSECTIONacIANGLE WITH DOT ABOVEaoROUNDED CORNERSa",
   "oSERIFS AT BOTTOMaoUNDERBARai-HEADED RIGHTWARDS ARROWagULAR BULLETalFLAG ON POSTalRULERadC",
   "OLONadDENT EMBLEMadGRAM FOR EARTHamFIREamHEAVENamLAKEamMOUNTAINamTHUNDERamWATERanINDadPLE ",
   "COLON OPERATORahDAGGERahHORIZONTAL BAR WITH DOUBLE VERTICAL STROKEbbTRIPLE VERTICAL STROKE",
   "ahINTEGRALahNESTED GREATER-THANaoLESS-THANahPLUSaiRIMEahSOLIDUS BINARY RELATIONahTILDEahVE",
   "RTICAL BAR BINARY RELATIONauDELIMITERauRIGHT TURNSTILEauWITH HORIZONTAL STROKEacOLLafEYBUS",
   "adPHYaeICAL DRINKajFISHacUEae LIGHT MOON ARTAadMPETabUGRIK SIGNacLIPacMBLER GLASSacRKEYaeI",
   "SH LIRA SIGNadNED AMPERSANDaiNGLEahBLACK PENTAGONanSHOGI PIECEahCAPITAL FaiOMMAahDAGGERaiI",
   "GIT THREEaoWOahGREEK SMALL LETTER IOTAahNORTH EAST POINTING LEAFanWEST POINTING LEAFajT SI",
   "GNahOK HAND SIGNahSANS-SERIF CAPITAL GbaLbaYaiEMICOLONaiMALL FaiOUTH EAST POINTING LEAFanW",
   "EST POINTING LEAFahWHITE SHOGI PIECEadTLEabWELVE POINTED BLACK STARacISTED RIGHTWARDS ARRO",
   "WSacO ASTERISKS ALIGNED VERTICALLYaeBUTTON MOUSEaeCONSECUTIVE EQUALS SIGNSaeDOT LEADERaiPU",
   "NCTUATIONahS OVER ONE DOT PUNCTUATIONaeHEARTSaeINTERSECTING LOGICAL ANDazORaeJOINED SQUARE",
   "SaeLOGICAL AND OPERATORamOR OPERATORaeMEN HOLDING HANDSaeSPEECH BUBBLESaeWOMEN HOLDING HAN",
   "DSad-EM DASHaaUGARITIC LETTER AINarLPAaqBETAaqDELTAarHALaqGAMLAarHAINaqHOasTAaqIaqKAFarHAa",
   "qLAMDAaqMEMaqNUNaqPUaqQOPAaqRASHAaqSADEasMKAarHINarSUaqTETarHANNAarOaqUaqWOaqYODaqZETAarUa",
   "jWORD DIVIDERabMBRELLAai ON GROUNDajWITH RAIN DROPSabNAMUSED FACEacCERTAINTY SIGNacDERTIEa",
   "dO SYMBOLacICORN FACEadONaf ABOVE BAR ABOVE INTERSECTIONamINTERSECTIONagBESIDE AND JOINED ",
   "WITH UNIONagWITH LOGICAL ORalMINUS SIGNalOVERBARadT SEPARATORaeED SYMBOLadVERSAL RECYCLING",
   " SYMBOLacMARRIED PARTNERSHIP SYMBOLabP ARROW THROUGH CIRCLEaiHEADam BETWEEN TWO HORIZONTAL",
   " BARSanIN A RECTANGLE BOXadBARB LEFT DOWN BARB LEFT HARPOONaxRIGHT HARPOONaiRIGHT DOWN BAR",
   "B LEFT HARPOONayRIGHT HARPOONadDOWN ARROWan WITH BASEaiBLACK ARROWaiDOUBLE ARROWaiSANS-SER",
   "IF ARROWaiTRIANGLE-HEADED ARROWaiWHITE ARROWadFISH TAILadRIGHT DIAGONAL ELLIPSISadTACKah W",
   "ITH CIRCLE ABOVEac-POINTING AIRPLANEamMILITARY AIRPLANEamRED TRIANGLEamSMALL AIRPLANEasRED",
   " TRIANGLEamTRIANGLE WITH LEFT HALF BLACKbaRIGHT HALF BLACKacPER AND LEFT AND LOWER TRIANGU",
   "LAR THREE QUARTERS BLOCKalOWER ONE EIGHTH BLOCKaqTRIANGULAR HALF BLOCKakRIGHT AND LOWER TR",
   "IANGULAR THREE QUARTERS BLOCKagBLADE SCISSORSagFIVE EIGHTHS BLOCKagHALF BLOCKaq AND LOWER ",
   "HALF INVERSE MEDIUM SHADEalCIRCLEalINVERSE MEDIUM SHADE AND LOWER HALF BLOCKatWHITE CIRCLE",
   "alMEDIUM SHADEagLEFT BLOCK DIAGONAL LOWER CENTRE TO LOWER MIDDLE RIGHTbqUPPER MIDDLE RIGHT",
   "bwRIGHTbgLEFT TO LOWER MIDDLE RIGHTboUPPER CENTREbuMIDDLE RIGHTbgMIDDLE LEFT TO UPPER CENT",
   "REcbMIDDLE RIGHTcbRIGHTbaUPPER MIDDLE LEFT TO UPPER CENTREcbRIGHTalCORNER WITH DOTalOR LOW",
   "ER RIGHT CURLY BRACKET SECTIONalQUADRANT CIRCULAR ARCalTO LOWER RIGHT FILLamRIANGLEarULAR ",
   "MEDIUM SHADEagONE EIGHTH BLOCKakQUARTER BLOCKagRIGHT BLOCK DIAGONAL LOWER MIDDLE LEFT TO L",
   "OWER CENTREccRIGHTbbUPPER CENTRE TO LOWER MIDDLE RIGHTbxRIGHTbrUPPER MIDDLE RIGHTbhLEFT TO",
   " LOWER CENTREbvMIDDLE RIGHTbpUPPER MIDDLE RIGHTbhMIDDLE LEFT TO LOWER CENTREccMIDDLE RIGHT",
   "ccRIGHTamDROP-SHADOWED WHITE SQUAREamOR LOWER LEFT CURLY BRACKET SECTIONamPENCILamQUADRANT",
   " CIRCULAR ARCamSHADOWED WHITE CIRCLEbbSQUAREamTO LOWER LEFT FILLanRIANGLEasULAR MEDIUM SHA",
   "DEagSEVEN EIGHTHS BLOCKagTHREE EIGHTHS BLOCKamQUARTERS BLOCKahRIANGULAR ONE QUARTER BLOCKa",
   "cSIDE-DOWN FACEacWARDS ANCORAajRROWan AND RIGHT ONE EIGHTH BLOCKaoFROM BARaoLEFTWARDS OF D",
   "OWNWARDS ARROWaoTO BARaoWITH DOUBLE STROKEatEQUILATERAL ARROWHEADatHORIZONTAL STROKEatLARG",
   "E TRIANGLE ARROWHEADatMEDIUM TRIANGLE ARROWHEADatNOTCHED TAILatSMALL EQUILATERAL ARROWHEAD",
   "azTRIANGLE ARROWHEADatTIP LEFTWARDSaxRIGHTWARDSaiBLACK ARROWaoCIRCLED WHITE ARROWaiCOMPRES",
   "SED ARROWaiDASHED ARROWajOUBLE ARROWaiFINGER-POST ARROWaiHARPOON WITH BARB LEFT BESIDE DOW",
   "NWARDS HARPOON WITH BARB RIGHTbmUPWARDS HARPOON WITH BARB RIGHTbfFROM BARbfTO BARbeWARDSba",
   "RIGHT FROM BARbgTO BARbfWARDSajEAVY ARROWaoCOMPRESSED ARROWaiPAIRED ARROWSaiQUADRUPLE ARRO",
   "WaiROCKETaiSANS-SERIF ARROWajQUARED ARROWaiTRIANGLE ARROWHEADaq-HEADED ARROWbd LEFTWARDS O",
   "F DOWNWARDS TRIANGLE-HEADED ARROWbeTO BARbeWITH BOLD SHAFTbjDOUBLE HORIZONTAL STROKEbjHEAV",
   "Y SHAFTbjLONG TIP LEFTWARDSbsRIGHTWARDSbjMEDIUM SHAFTbjNARROW SHAFTbjVERY HEAVY SHAFTayDAS",
   "HED ARROWayPAIRED ARROWSalPLE ARROWajWO HEADED ARROWal-HEADED ARROW FROM SMALL CIRCLEazWIT",
   "H TRIANGLE ARROWHEADSaiWHITE ARROWat FROM BARbc WITH HORIZONTAL BARauON PEDESTALbf WITH HO",
   "RIZONTAL BARblVERTICAL BARauWITHIN TRIANGLE ARROWHEADaoDOUBLE ARROWba ON PEDESTALabRANUSab",
   "SaaVAI COMMAaeDIGIT EIGHTakFIVEalOURakNINEakONEakSEVENalIXakTHREEalWOakZEROaeFULL STOPaeQU",
   "ESTION MARKaeSYLLABLE AaoNanBAaoEapEaoHAapEaqEapIapOaqOapUaoIaoOapOaoUanCAaoEapEaoIaoOapOa",
   "oUanDAaoEapEaoHAapEaqEapHAaqEarEaqIaqOarOaqUapIapOaqOapUaoIaoOapOaoUanEaoEapNaoNanFAaoEapE",
   "aoIaoOapOaoUanGAaoBAapEaqEaqNapIapOaqNaqOapUaoEapEapNaoIaoOapOaoUanHAapNaoEapEapNaoIapNaoO",
   "apNapOaoUapNanIaoNanJAaoEapEaoIaoOapOaoUanKAapNaoEapEaoIaoOapOaoPAaqNapEaqEaqNapIapOaqOapU",
   "aoUanLAaoEapEapNGTHENERaoIaoOapOaoUanMAaoBAapEaqEapIapOaqOapUaoEapEaoGBAaqEarEaqIaqOarOaqU",
   "aoIaoOapOaoUanNAaoDAapEaqEapIapOaqLE DOatFAatKAatMAatSOOaqOapUaoEapEaoGapANapENapGAaqEarEa",
   "rNaqIaqOarOaqUapONaoIaoJAapEaqEapIapOaqOapUaoOapOaoUaoYAapEaqEapIapOaqOapUanOaoNaoOapNanPA",
   "aoEapEaoIaoOapOaoUanRAaoEapEaoIaoOapOaoUanSAaoEapEaoHAapEaqEapIapOaqOapUaoIaoOapOaoUanTAao",
   "EapEaoHAapEaqEapIapOaqOapUaoIaoOapOaoUanUaoNanVAaoEapEaoIaoOapOaoUanWAapNaoEapEaqNapNaoIap",
   "NaoOapNapOaqNaoUapNanYAaoEapEaoIaoOapOaoUanZAaoEapEaoHAapEaqEapIapOaqOapUaoIaoOapOaoUagMBO",
   "L BANGalDANGamO-OanONGalFAAamEENGalJONGalKEENGamUNGalNIIalTAAamINGamONGacMPIREacRIATION SE",
   "LECTOR-1au0av0av1av2av3av4av5av6av7av8av9au1av0av1av2av3av4av5av6av7av8av9au2av0av1av2av3a",
   "v4av5av6av7av8av9au3av0av1av2av3av4av5av6av7av8av9au4av0av1av2av3av4av5av6av7av8av9au5av0a",
   "v1av2av3av4av5av6av7av8av9au6av0av1av2av3av4av5av6av7av8av9au7av0av1av2av3av4av5av6av7av8a",
   "v9au8av0av1av2av3av4av5av6av7av8av9au9av0av1av2av3av4av5av6av7av8av9at2au0av0av1av2av3av4a",
   "v5av6av7av8av9au1av0av1av2av3av4av5av6av7av8av9au2av0av1av2av3av4av5av6av7av8av9au3av0av1a",
   "v2av3av4av5av6av7av8av9au4av0av1av2av3av4av5av6av7av8av9au5av0av1av2av3av4av5av6au6au7au8a",
   "u9at3au0au1au2au3au4au5au6au7au8au9at4au0au1au2au3au4au5au6au7au8au9at5au0au1au2au3au4au5a",
   "u6au7au8au9at6au0au1au2au3au4au5au6au7au8au9at7au0au1au2au3au4au5au6au7au8au9at8au0au1au2a",
   "u3au4au5au6au7au8au9at9au0au1au2au3au4au5au6au7au8au9abECTOR OR CROSS PRODUCTacDIC SIGN AN",
   "USVARA ANTARGOMUKHAauBAHIRGOMUKHAauUBHAYATO MUKHAauVAMAGOMUKHAbf WITH TAILamRDHAVISARGAamT",
   "IKRAMAalDOUBLE ANUSVARA ANTARGOMUKHAalHEXIFORM LONG ANUSVARAalJIHVAMULIYAalLONG ANUSVARAal",
   "NIHSHVASAalREVERSED VISARGA ANUDATTAbcUDATTAamOTATED ARDHAVISARGAamTHANG LONG ANUSVARAalTI",
   "RYAKalUPADHMANIYAalVISARGA ANUDATTAbb WITH TAILatSVARITAatUDATTAaz WITH TAILalYAJURVEDIC M",
   "IDLINE SVARITAagTONE ATHARVAVEDIC INDEPENDENT SVARITAalCANDRA ABOVEasBELOWalDOT BELOWanUBL",
   "E RING ABOVEasSVARITAalKARSHANAanTHAKA ANUDATTAalPRENKHAalRIGVEDIC KASHMIRI INDEPENDENT SV",
   "ARITAanNG ABOVEalSHARAalTHREE DOTS BELOWamRIPLE SVARITAamWO DOTS BELOWalYAJURVEDIC AGGRAVA",
   "TED INDEPENDENT SVARITAawINDEPENDENT SVARITAawKATHAKA INDEPENDENT SVARITAbx SCHROEDERacRSI",
   "CLEadTICAL BAR BESIDE RIGHT TRIANGLEanDOUBLE LEFT TURNSTILEanTRIPLE RIGHT TURNSTILEanWITH ",
   "HORIZONTAL STROKEajELLIPSISajFOUR DOTSajIDEOGRAPHIC ITERATION MARKajKANA REPEAT MARKaz LOW",
   "ER HALFbaUPPER HALFavWITH VOICED SOUND MARKbr UPPER HALFajLINEan EXTENSIONaoWITH CIRCLE AB",
   "OVEbaBELOWatMIDDLE DOTajMALE WITH STROKE SIGNajONE EIGHTH BLOCK-2ba3ba4ba5ba6ba7ajSIX DOTS",
   "ajTAB KEYamULATIONat SETakILDEakRAFFIC LIGHTajZIGZAG LINEadY BOLD GREEK CROSSafHEAVY EIGHT",
   " POINTED BLACK STARarSPOKED ASTERISKalFIVE SPOKED ASTERISKalGREEK CROSSalREVERSE SOLIDUSal",
   "SALTIREamIX SPOKED ASTERISKamOLIDUSalWHITE CIRCLEarSQUAREafMUCH GREATER-THANakLESS-THANacS",
   "TAabIBRATION MODEacCTORY HANDacDEO CAMERAagGAMEafCASSETTEacETNAMESE ALTERNATE READING MARK",
   " CAbiNHAYadWDATA SQUAREacOLINacRGOacTHKUQI CAPITAL LETTER AayBBEazEayCEazHEayDEazHEayEazIa",
   "yFEayGAayHAazHAayIazJEayJEayKAayLAazLAayMEayNEazJEayOayPEayQAayREaySEazHEayTEazHEayUayVEay",
   "XEayYayZEajSMALL LETTER AawBBEaxEawCEaxHEawDEaxHEawEaxIawFEawGAawHAaxHAawIaxJEawJEawKAawLA",
   "axLAawMEawNEaxJEawOawPEawQAawREawSEaxHEawTEaxHEawUawVEawXEawYawZEabOIDED GREEK CROSSacLCAN",
   "OadLEYBALLadUME INTEGRALabS1ad0ae0ae1ae2ae3ae4ae5ae6ae7ae8ae9ad1ae0ae1ae2ae3ae4ae5ae6ae7ae",
   "8ae9ad2ae0ae1ae2ae3ae4ae5ae6ae7ae8ae9ad3ae0ae1ae2ae3ae4ae5ae6ae7ae8ae9ad4ae0ae1ae2ae3ae4ae",
   "5ae6ae7ae8ae9ad5ae0ae1ae2ae3ae4ae5ae6ae7ae8ae9ad6ae0ae1ae2ae3ae4ae5ae6ae7ae8ae9ad7ae0ae1ae",
   "2ae3ae4ae5ae6ae7ae8ae9ad8ae0ae1ae2ae3ae4ae5ae6ae7ae8ae9ad9ae0ae1ae2ae3ae4ae5ae6ae7ae8ae9ac",
   "2ad0ae0ae1ae2ae3ae4ae5ae6ae7ae8ae9ad1ae0ae1ae2ae3ae4ae5ae6ae7ae8ae9ad2ae0ae1ae2ae3ae4ae5ae",
   "6ae7ae8ae9ad3ae0ae1ae2ae3ae4ae5ae6ae7ae8ae9ad4ae0ae1ae2ae3ae4ae5ae6ae7ae8ae9ad5ae0ae1ae2ae",
   "3ae4ae5ae6ad6ad7ad8ad9ac3ad0ad1ad2ad3ad4ad5ad6ad7ad8ad9ac4ad0ad1ad2ad3ad4ad5ad6ad7ad8ad9ac",
   "5ad0ad1ad2ad3ad4ad5ad6ad7ad8ad9ac6ad0ad1ad2ad3ad4ad5ad6ad7ad8ad9ac7ad0ad1ad2ad3ad4ad5ad6ad",
   "7ad8ad9ac8ad0ad1ad2ad3ad4ad5ad6ad7ad8ad9ac9ad0ad1ad2ad3ad4ad5ad6ad7ad8ad9abTacSabULCANUSad",
   "GAR FRACTION FIVE EIGHTHSavSIXTHSarOUR FIFTHSaqONE EIGHTHauFIFTHauHALFauNINTHauQUARTERauSE",
   "VENTHavIXTHauTENTHavHIRDaqSEVEN EIGHTHSaqTHREE EIGHTHSawFIFTHSawQUARTERSarWO FIFTHSauTHIRD",
   "SaqZERO THIRDSaaWAFFLEacNCHO DIGIT EIGHTanFIVEaoOURanNINEanONEanSEVENaoIXanTHREEaoWOanZERO",
   "ahLETTER AapAaqNarGapNGapUaoBAaoCAaoDAaoEapNaoFAaoGAaoHAaoIapNGaoJAaoKAapHAaoLAapLHAaoMAao",
   "NAapGAapYAaoOapNaqGaoPAapHAaoRAaoSAapHAaoTAapHAapRAapSAaoUapENaoVAaoWAaoYAapIHaoZAahNGUN S",
   "IGNahTONE KOIapNIamTUPapNIadING CRESCENT MOON SYMBOLahGIBBOUS MOON SYMBOLacRANG CITI CAPIT",
   "AL LETTER AbcMbcNGbcTbbBUbbDAbbEbcNNbdYbbGAbbHARbcIYObcOLObdRRbbIIbbKObbNGAAbcUNGbbObcDDbb",
   "PUbbSIIbcSUUbbTTEbbUCbcUbbVIYObbWIbbYAbcObcUbdJamDIGIT EIGHTasFIVEatOURasNINEasONEasSEVENa",
   "tIXasTHREEatWOasZEROamNUMBER EIGHTYatFIFTYauORTYatNINETYatSEVENTYauIXTYatTENauHIRTYauWENTY",
   "amOMamSMALL LETTER AbaMbaNGbaTazBUazDAazEbaNNbbYazGAazHARbaIYObaOLObbRRazIIazKOazNGAAbaUNG",
   "azObaDDazPUazSIIbaSUUazTTEazUCbaUazVIYOazWIazYAbaObaUbbJadNING SIGNacSTEBASKETacTCHadER BU",
   "FFALOagCLOSETagPOLOagWAVEafMELONacVE ARROW POINTING DIRECTLY LEFTbdRIGHTafDASHadING BLACK ",
   "FLAGahHAND SIGNahWHITE FLAGadY DASHafLINEagOW LINEafOVERLINEacXING CRESCENT MOON SYMBOLahG",
   "IBBOUS MOON SYMBOLabEARY CAT FACEagFACEacDDINGadGE-TAILED RIGHTWARDS ARROWacIERSTRASS ELLI",
   "PTIC FUNCTIONadGHT LIFTERacST SYRIAC CROSSabHALEacEELaf OF DHARMAafCHAIR SYMBOLacITE ARROW",
   " SHAFT WIDTH ONEayTWO THIRDSagBULLETagCHESS BISHOPas ROTATED NINETY DEGREESbbTWO HUNDRED S",
   "EVENTY DEGREESamEQUIHOPPERaw ROTATED NINETY DEGREESamKINGaq ROTATED NINETY DEGREESazTWO HU",
   "NDRED SEVENTY DEGREESanNIGHTas ROTATED FORTY-FIVE DEGREESbbNINETY DEGREESbbONE HUNDRED THI",
   "RTY-FIVE DEGREESbbTHREE HUNDRED FIFTEEN DEGREESbcWO HUNDRED SEVENTY DEGREESbnTWENTY-FIVE D",
   "EGREESas-BISHOPatQUEENatROOKamPAWNaq ROTATED NINETY DEGREESazTWO HUNDRED SEVENTY DEGREESam",
   "QUEENar ROTATED NINETY DEGREESbaTWO HUNDRED SEVENTY DEGREESamROOKaq ROTATED NINETY DEGREES",
   "azTWO HUNDRED SEVENTY DEGREESamTURNED BISHOPatKINGauNIGHTatPAWNatQUEENatROOKahIRCLEam CONT",
   "AINING BLACK SMALL CIRCLEanWITH DOT RIGHTauWN ARROWasLOWER LEFT QUADRANTayRIGHT QUADRANTas",
   "TWO DOTSasUPPER LEFT QUADRANTayRIGHT QUADRANTahLUB SUITahONCAVE-SIDED DIAMONDbb WITH LEFTW",
   "ARDS TICKbhRIGHTWARDS TICKagDIAMONDan CONTAINING BLACK MEDIUM DIAMONDbfSMALL DIAMONDbfVERY",
   " SMALL DIAMONDaoIN SQUAREaoSUITaoWITH CENTRED DOTahOWN POINTING BACKHAND INDEXauINDEXauLEF",
   "T HAND INDEXak-POINTING SMALL TRIANGLEauTRIANGLEahRAUGHTS KINGapMANagEXCLAMATION MARK ORNA",
   "MENTagFLAGak WITH HORIZONTAL MIDDLE BLACK STRIPEaiORETTEajWERahOUR POINTED CUSPatSTARahROW",
   "NING FACEagHARD SHELL FLOPPY DISKahEARTal SUITajVY CHECK MARKamSALTIRE WITH ROUNDED CORNER",
   "SaiXAGONahORIZONTAL ELLIPSEaiURGLASSagLARGE SQUAREaiTIN CROSSahEFT LANE MERGEalPOINTING BA",
   "CKHAND INDEXauINDEXak-POINTING POINTERauSMALL TRIANGLEauTRIANGLEahOZENGE CONTAINING BLACK ",
   "SMALL LOZENGEagMEDIUM DIAMONDanLOZENGEanSMALL SQUAREaoQUAREaoTARahOON SELENAagNIBagPARALLE",
   "LOGRAMahENNANTajTAGONagQUESTION MARK ORNAMENTagRECTANGLEahIGHT POINTING BACKHAND INDEXavIN",
   "DEXal-POINTING PENTAGONawOINTERavSMALL TRIANGLEavTRIANGLEagSCISSORSahESAME DOTahHOGI PIECE",
   "ahMALL LOZENGEamSQUAREanTARaiILING FACEahPADE SUITahQUAREam BUTTONanCONTAINING BLACK MEDIU",
   "M SQUAREbeSMALL SQUAREbeVERY SMALL SQUAREanWITH CENTRE VERTICAL LINEasLEFTWARDS TICKatOWER",
   " LEFT QUADRANTayRIGHT QUADRANTasRIGHTWARDS TICKatOUNDED CORNERSasUPPER LEFT QUADRANTayRIGH",
   "T QUADRANTasVERTICAL BISECTING LINEahTARahUNaj BEHIND CLOUDaw WITH RAINakWITH RAYSapSMALL ",
   "CLOUDagTELEPHONEahOUCHTONE TELEPHONEahRAPEZIUMaiIANGLE CONTAINING SMALL WHITE TRIANGLEahWO",
   "-WAY LEFT WAY TRAFFICagUP POINTING BACKHAND INDEXasINDEXai-POINTING CHEVRONasSMALL TRIANGL",
   "EasTRIANGLEba WITH DOTagVERTICAL BARapELLIPSEapRECTANGLEajY SMALL SQUAREaf-FEATHERED RIGHT",
   "WARDS ARROWabIDE-HEADED DOWNWARDS BARB ARROWawHEAVY BARB ARROWawLIGHT BARB ARROWawMEDIUM B",
   "ARB ARROWawVERY HEAVY BARB ARROWamLEFTWARDS BARB ARROWawHEAVY BARB ARROWawLIGHT BARB ARROW",
   "awMEDIUM BARB ARROWawVERY HEAVY BARB ARROWamNORTH EAST BARB ARROWaxHEAVY BARB ARROWaxLIGHT",
   " BARB ARROWaxMEDIUM BARB ARROWaxVERY HEAVY BARB ARROWasWEST BARB ARROWaxHEAVY BARB ARROWax",
   "LIGHT BARB ARROWaxMEDIUM BARB ARROWaxVERY HEAVY BARB ARROWamRIGHTWARDS BARB ARROWaxHEAVY B",
   "ARB ARROWaxLIGHT BARB ARROWaxMEDIUM BARB ARROWaxVERY HEAVY BARB ARROWamSOUTH EAST BARB ARR",
   "OWaxHEAVY BARB ARROWaxLIGHT BARB ARROWaxMEDIUM BARB ARROWaxVERY HEAVY BARB ARROWasWEST BAR",
   "B ARROWaxHEAVY BARB ARROWaxLIGHT BARB ARROWaxMEDIUM BARB ARROWaxVERY HEAVY BARB ARROWamUPW",
   "ARDS BARB ARROWauHEAVY BARB ARROWauLIGHT BARB ARROWauMEDIUM BARB ARROWauVERY HEAVY BARB AR",
   "ROWacGGLY VERTICAL LINEacLTED FLOWERacND BLOWING FACEafCHIMEaeOWadE GLASSadKING FACEacRED ",
   "KEYBOARDabJabOLF FACEacMANaf WITH BUNNY EARSafS BOOTSahCLOTHESahHATahSANDALadENS SYMBOLacN",
   " SIGNacODacRD JOINERafSEPARATOR MIDDLE DOTadLD MAPadMadRIED FACEabRAPPED PRESENTacEATH PRO",
   "DUCTadNCHadSTLERSacITING HANDaaX IN A RECTANGLE BOXab-RAYabIANGQI BLACK CANNONapHARIOTaoEL",
   "EPHANTaoGENERALaoHORSEaoMANDARINaoSOLDIERaiRED CANNONanHARIOTamELEPHANTamGENERALamHORSEamM",
   "ANDARINamSOLDIERabORaaYAWNING FACEabELLOW HEARTacN SIGNacZIDI COMBINING HAMZA MARKarMADDA ",
   "MARKahHYPHENATION MARKahLETTER BEaoCHHIMaqIMapIMaoDADaqLaoELIFapTapWapYNaoFAaoGAFaoHAYapHA",
   "aoJAaoKAFapHAFaoLAMar WITH DOT ABOVEaoMIMaoNUNaoOWaoPEapHEaoQAFaoRAapHAaoSADapEapHINapINao",
   "TAapHEaoUMaoVAaq ALTERNATE FORMaoWAWaoXAapHEYNaoYOTar WITH CIRCUMFLEX ABOVEaoZAaqLapEabI R",
   "ADICAL BBUTamURalCHEamIPamUOPamYanPanTalDDURamUalGAamEPamGOPanUOamOTalHMOamXITanOPanUOalJJ",
   "IEanUTanYamOalKEamITalLIanEamYRalMIamOPalNBIEamYIPanOPamZUPalOPalPUTamYTalQOTalSHATanOPanU",
   "RanYamSIalTATamUalVEPamURalWOalYITamOalZAamOTamUPanRamZIETadSYLLABLE AanPanTanXamBAaoPaoTa",
   "oXanBAapPapTapXaoEapPapXaoIapEaqPaqTaqXapPapTapXaoOapPapTapXaoUapOaqPaqXapPapRaqXapTapXaoY",
   "apPapTapXanEaoPaoXanIaoEapPapTapXaoPaoTaoXanOaoPaoTaoXanUaoOapPapXaoPaoRapXaoTaoXanYaoPaoR",
   "apXaoTaoXamCAaoPaoTaoXanEaoPaoXanHAapPapTapXaoEapPapTapXaoOapPapTapXaoUapOaqPaqTaqXapPapRa",
   "qXapXaoYapPapRaqXapTapXanIaoEapPapTapXaoPaoTaoXanOaoPaoTaoXanUaoOapPapXaoPaoRapXaoTaoXanYa",
   "oPaoRapXaoTaoXamDAaoPaoTaoXanDAapPapTapXaoEapPapXaoIapEaqPaqXapPapTapXaoOapPapTapXaoUapOaq",
   "PaqXapPapRaqXapTapXanEaoPaoXanIaoEapPapXaoPaoTaoXanOaoPaoTaoXanUaoOapXaoPaoRapXaoTaoXamEan",
   "XamFAaoPaoTaoXanIaoPaoTaoXanOaoPaoXanUaoPaoRapXaoTaoXanYaoPaoTaoXamGAaoPaoTaoXanEaoPaoTaoX",
   "anGAapPapTapXaoEapPapTapXaoIapEaqPaqXapTapXaoOapPapTapXaoUapOaqPaqTaqXapPapRaqXapTapXanIao",
   "EapPapTapXaoPaoTaoXanOaoPaoTaoXanUaoOapPapTapXaoPaoRapXaoTaoXamHAaoPaoTaoXanEaoPaoXanIEapX",
   "aoTanLAapPapTapXaoEapPapXaoIapEaqPaqXapPapTapXaoOapPapXaoUapOaqPaqXapPapRaqXapTapXaoYapPap",
   "RaqXapTapXanMAapPapTapXaoIapEaqPaqXapPapTapXaoOapPapTapXaoUapOaqPaqXapPapRaqXapTapXaoYapPa",
   "pRaqXapXanNAapPapTapXaoEapPapXaoIapEaqPaqTaqXapPapTapXaoOPapTapXaoUOaqXapTanOaoPaoTaoXanUO",
   "apPapTapXanXAapPapTapXaoEapPapXaoIapEaqPaqTaqXapPapTapXaoOapPapTapXaoUOaqPaqTaqXamIanEaoPa",
   "oTaoXanPanTaoERATION MARKanXamJIaoEapPapTapXaoPaoTaoXanJIapEaqPaqTaqXapPapTapXaoOapPapTapX",
   "aoUapOaqPaqXapPapRaqXapTapXaoYapPapTapXanOaoPaoTaoXanUaoOapPapTapXaoPaoRapXaoTaoXanYaoPaoR",
   "apXaoTaoXamKAaoPaoTaoXanEaoPaoTaoXanIaoEapPapXaoPaoTaoXanOaoPaoTaoXanUaoOapPapXaoPaoRapXao",
   "TaoXamLAaoPaoTaoXanEaoPaoXanIaoEapPapTapXaoPaoTaoXanOaoPaoTaoXanUaoOapPapTapXaoPaoRapXaoTa",
   "oXanYaoPaoRapXaoTaoXamMAaoPaoTaoXanEaoXanGAapPapTapXaoEapPapXaoIEaqXaoOapPapTapXaoUapOaqPa",
   "qXapPapRaqXapTapXanIaoEapPapXaoPaoTaoXanOaoPaoTaoXanUaoOapPapTapXaoPaoRapXaoTaoXanYaoPaoTa",
   "oXamNAaoPaoXanBAapPapTapXaoIapEaqPaqXapPapTapXaoOapPapTapXaoUapPapRaqXapTapXaoYapPapRaqXap",
   "TapXanDAapPapTapXaoEapPapXaoIapEaqXapPapTapXaoOapPapTapXaoUapPapRaqXapTapXanEaoPaoXanGAapP",
   "apTapXaoEapPapXaoIEaqPaqXaoOapPapTapXaoUOaqTaqXanIaoEapPapXaoPaoTaoXanJIapEaqPaqTaqXapPapT",
   "apXaoOapPapTapXaoUapOaqXapPapRaqXapXaoYapPapRaqXapTapXanOaoPaoTaoXanRAapPapTapXaoEapPapTap",
   "XaoOapPapXaoUapPapRaqXapTapXaoYapPapRaqXapTapXanUaoOapPapXaoPaoRapXaoTaoXanYIapEaqPaqTaqXa",
   "pPapTapXaoOapPapTapXaoUapOaqPaqXapPapTapXanZAapPapTapXaoEapXaoIapEaqPaqXapPapTapXaoOPapXao",
   "UapOaqXapPapRaqXapXaoYapPapRaqXapTapXamOanPanTanXamPAaoPaoTaoXanIaoEapPapXaoPaoTaoXanOaoPa",
   "oTaoXanUaoOapPapXaoPaoRapXaoTaoXanYaoPaoRapXaoTaoXamQIaoEapPapTapXaoPaoTaoXanOaoPaoTaoXanU",
   "aoOapPapTapXaoPaoRapXaoTaoXanYaoPaoRapXaoTaoXamRAaoPaoTaoXanEaoPaoXanOaoPaoTaoXanRAapXaoEa",
   "pPapTapXaoOapPapTapXaoUapOaqXapPapRaqXapTapXaoYapPapRaqXapTapXanUaoOapPapXaoPaoRapXaoTaoXa",
   "nYaoPaoRapXaoTaoXamSAaoPaoTaoXanEaoPaoXanHAapPapTapXaoEapPapTapXaoOapPapTapXaoUapOaqPaqXap",
   "PapRaqXapTapXaoYapPapRaqXapTapXanIaoEapPapXaoPaoTaoXanOaoPaoTaoXanSAapPapTapXaoEapPapXaoIa",
   "pEaqPaqXapPapTapXaoOapPapTapXaoUapPapTapXaoYapPapRaqXapTapXanUaoOapPapXaoPaoRapXaoTaoXanYa",
   "oPaoRapXaoTaoXamTAaoPaoTaoXanEaoPaoXanIaoEapPapXaoPaoTaoXanOaoPaoTaoXanUaoOapPapTapXaoPaoR",
   "apXaoTaoXamUOaoPaoXamVAaoPaoTaoXanEPaoXanIaoEapPapTapXaoPaoTaoXanOaoPaoTaoXanUaoPaoRapXaoT",
   "aoXanYaoPaoRapXaoTaoXamWAaoPaoTaoXanEaoPaoXanOaoPaoXanUaoOapPapXamXIaoEapPapTapXaoPaoTaoXa",
   "nOaoPaoTaoXanUOapXanYaoPaoRapXaoTaoXamYIaoEapPapTapXaoPaoTaoXanOaoPaoTaoXanUaoOapPapTapXao",
   "PaoRapXaoTaoXanYaoPaoRapXaoTaoXamZAaoPaoTaoXanEaoPaoXanHAapPapTapXaoEapPapTapXaoOapPapTapX",
   "aoUapOaqPaqXapPapRaqXapTapXaoYapPapRaqXapTapXanIaoEapPapXaoPaoTaoXanOaoPaoTaoXanUaoOapPapX",
   "aoPaoRapXaoTaoXanYaoPaoRapXaoTaoXanZAapPapTapXaoEapPapXaoIapEaqPaqTaqXapPapTapXaoOapPapXao",
   "UapPapRaqXapXaoYapPapRaqXapTapXacN YANGabO-YOaaZ NOTATION BAG MEMBERSHIPalDOMAIN ANTIRESTR",
   "ICTIONalLEFT BINDING BRACKETaqIMAGE BRACKETalRANGE ANTIRESTRICTIONamELATIONAL COMPOSITIONa",
   "mIGHT BINDING BRACKETarIMAGE BRACKETalSCHEMA COMPOSITIONasPIPINGatROJECTIONamPOTalTYPE COL",
   "ONabANABAZAR SQUARE CLOSING DOUBLE-LINED HEAD MARKazHEAD MARKatUSTER-FINAL LETTER LAbmRAbm",
   "VAbmYAazINITIAL LETTER RAarFINAL CONSONANT MARKarINITIAL DOUBLE-LINED HEAD MARKazHEAD MARK",
   "arLETTER -AayAayBAazHAayCAazHAayDAazDAbaHAazHAazZAbaHAayGAazHAayHAayJAayKAazHAazSSAayLAayM",
   "AayNAazGAazNAazYAayPAazHAayRAaySAazHAazSAayTAazHAazSAbaHAazTAbaHAayVAayYAayZAazHAarMARK DO",
   "UBLE SHADawLONG TSHEGawSHADawTSHEGarSIGN ANUSVARAawCANDRA WITH ORNAMENTbcBINDUbh WITH ORNA",
   "MENTawVIRAMAaySARGAasUBJOINERarVOWEL LENGTH MARKaxSIGN AIbdUbcEbcIbcObdEbcREVERSED IbcUbdE",
   "abEBRA FACEacRO WIDTH JOINERalNO-BREAK SPACEanN-JOINERalSPACEacUSabIPPER-MOUTH FACEabNAMEN",
   "NY COMBINING ATTACHING VERTICAL OMETatLOWER TONAL RANGE INDICATORatMARK BORZAYAayCHASHKAbf",
   " POLNAYAazURVED OMETayDEMESTVENNY ZADERZHKAazVOETOCHIEayGORAZDO NIZKO ON LEFTbpRIGHTbmS KR",
   "YZHEM ON LEFTbzRIGHTbgVYSOKOayKACHKAazRYZHbd ON LEFTazUPNAYAayLOMKAayMALO POVYSHE ON LEFTb",
   "oRIGHTblS KHOKHLOM ON LEFTbzRIGHTboRYZHEMbmTRANNOayNIZKO ON LEFTbhRIGHTbeS KRYZHEM ON LEFT",
   "brRIGHTayOBLACHKOazNazTSECHKAayPODCHASHIEbi WITH VERTICAL STROKEbbVERTKAbaVYSHE ON LEFTbjR",
   "IGHTbgS KHOKHLOM ON LEFTbuRIGHTbjRYZHEMbhTRANNOayRAVNObaZSEKAaySKOBAazOROCHYA NOZHKAazREDN",
   "E ON LEFTbiRIGHTazTRANNO MALO POVYSHEayTIKHAYAazOCHKAazSATA ON LEFTbhRIGHTbeS KRYZHEMayUDA",
   "RKAayVYSOKO ON LEFTbiRIGHTbfS KHOKHLOM ON LEFTbtRIGHTbiRYZHEMayZADERZHKAazELObaVOKatTONAL ",
   "RANGE MARK MRACHNObkSVETLObkTRESVETLOajNEUME CHASHKAarELYUSTKAapDEMESTVENNY KLYUCHarRBITSA",
   "aqOUBLE ZAPYATAYAaqUDAaqVA V CHELNUapFITAapGOLUBCHIK BORZYazMRACHNYazSVETLYazTIKHYbaRESVET",
   "LYapKHAMILOaqLYUCHaqOBYLAaqRYUKau TIKHYasZHaqUFISMAapMECHIKav KLYUCHENEPOSTOYANNYbdPOVODNY",
   "bdVOYawPOVODNYapNEMKAapOBLAKOaqSOKAau KLYUCHEVAYA NEPOSTOYANNAYAbhSVETLAYAawRYUKOVAYA SVET",
   "LAYAavSVETLAYAavTRESVETLAYAapPALKAarRAKLITarUKaqEREVODKAay NEPOSTOYANNAYAaqODCHASHIEarLKUL",
   "IZMYapREVERSED CHELYUSTKAaqOGapSKAMEYTSA DVOECHELNAYA KLYUCHEVAYAbmNEPOSTOYANNAYAbmPROSTAY",
   "AbmSVETLAYAazKLYUCHENEPOSTOYANNAYAbgVAYA SVETLAYAblTIKHAYAazMRACHNAYAazSVETLAYAazTIKHAYAba",
   "RESVETLAYAaqLOZHITIEay S KRYZHEMbbZAPYATOYazZAKRYTOEaqTATYAav NEPOSTOYANNAYAawS DVUMYA ZAP",
   "YATYMIayKRYZHEMbf I ZAPYATOYayROGOMayZAPYATOYbg I KRYZHEMbjPODCHASHIEMawZAKRYTAYAbf S ZAPY",
   "ATOYarOPITSAax S OCHKOMayWITH SOROCHYA NOZHKAarRELA DVOECHELNAYAbi KLYUCHEVAYAbfOKRYZHEVAY",
   "AbgPOVODNAYAbp KLYUCHEVAYAawGROMNAYAbe WITH SINGLE ZAPYATAYAbaOKRYZHEVAYAbl POVODNAYAbbPOV",
   "ODNAYAbk WITH DOUBLE ZAPYATAYAbqSINGLE ZAPYATAYAawKLYUCHENEPOSTOYANNAYAbdPOVODNAYAaxRYUKOV",
   "AYAbg GROMNAYAbp WITH SINGLE ZAPYATAYAblOKRYZHEVAYAbw POVODNAYAbmPOVODNAYAbv WITH DOUBLE Z",
   "APYATAYAcbSINGLE ZAPYATAYAbhPOVODNAYAbhTRYASKAazZHEVAYAawMRACHNOTIKHAYAawNEPOSTOYANNAYAawP",
   "OLUPOVODNAYAayVODNAYAaxROSTAYAawTIKHAYA PUTNAYAaxRYASOGLASNAYAbcPOVODNAYAbcSTRELNAYAapVRAK",
   "HIYA KLYUCHEVAYA MRACHNAYAbkPROSTAYAbkSVETLAYAbkTRESVETLAYAayMRACHNAYAayPROSTAYAaySVETLAYA",
   "ayTRESVETLAYAapZANOZHEKarPYATAYAaqMEYTSAajPRIZNAK MODIFIER DIRECTION FLIPbaKRYZHbaLEVEL-2b",
   "g3baROGabOMBIEabWJacNBSPadJacSP"]

/-- The character names, front-coded. -/
def nameTable : String := String.join nameTablePieces

end SyntaxAdvisor.Text
